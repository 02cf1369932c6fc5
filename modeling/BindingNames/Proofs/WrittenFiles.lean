import BindingNames.Disk
import BindingNames.Proofs.Outcomes

/-!
Files that are written, added to and read again. A path goes through directories only, and a file is
never put in the place of one, so the path leads where it led before the file was there. It is found
by every name of the path except those that only a directory can have. What is added to a text goes
behind it, and every other place keeps what it holds.
-/

namespace BindingNames.Disk

variable {d d' : Disk} {p : Path} {node : Node}

/-! ### Places -/

theorem lookup_putNode_of_ne {place other : Place} (h : other ≠ place) (node : Node)
    (nodes : List (Place × Node)) :
    (putNode place node nodes).lookup other = nodes.lookup other := by
  have hother : (other == place) = false := beq_eq_false_iff_ne.mpr h
  induction nodes with
  | nil => simp [putNode, List.lookup_cons, hother]
  | cons p rest ih =>
      obtain ⟨q, n⟩ := p
      simp only [putNode]
      split
      · rename_i hq
        rw [List.lookup_cons, List.lookup_cons, hother, eq_of_beq hq, hother]
      · rw [List.lookup_cons, List.lookup_cons, ih]

theorem node?_put_of_ne (d : Disk) {place other : Place} (node : Node) (h : other ≠ place) :
    (d.put place node).node? other = d.node? other := by
  simp only [node?, put, lookup_putNode_of_ne h]

/-- A file that is written stands where its path leads, and all else stays. -/
theorem writeFile_eq_ok {d d' : Disk} {p : Path} {node : Node} (h : d.writeFile p node = .ok d') :
    ∃ place, d.locate p = .ok place ∧ d' = d.put place node := by
  unfold writeFile at h
  cases hplace : d.locate p with
  | error fault =>
      rw [hplace] at h
      contradiction
  | ok place =>
      simp only [hplace, ok_bind] at h
      refine ⟨place, rfl, ?_⟩
      split at h
      · contradiction
      · exact (Except.ok.inj h).symm
      · split at h
        · exact (Except.ok.inj h).symm
        · contradiction
        · contradiction

/-! ### The working directory -/

@[simp] theorem cwd_put (d : Disk) (place : Place) (node : Node) : (d.put place node).cwd = d.cwd :=
  rfl

theorem cwd_makeAlong {made : Bool} {behind names : List Text} {place : Place}
    (h : makeAlong d p made behind place names = .ok d') : d'.cwd = d.cwd := by
  induction names generalizing d made behind place with
  | nil => rw [← Except.ok.inj h]
  | cons s rest ih =>
      simp only [makeAlong] at h
      split at h
      · contradiction
      · split at h
        · exact ih h
        · exact (ih h).trans (cwd_put _ _ _)
        · contradiction

theorem cwd_makeDirectories (h : d.makeDirectories p = .ok d') : d'.cwd = d.cwd := by
  unfold makeDirectories at h
  split at h
  · contradiction
  · exact cwd_makeAlong h

theorem cwd_placeFile (h : d.placeFile p node = .ok d') : d'.cwd = d.cwd := by
  obtain ⟨d₁, hmade, hwritten⟩ := bind_eq_ok_iff.mp h
  obtain ⟨place, -, rfl⟩ := writeFile_eq_ok hwritten
  exact (cwd_put _ _ _).trans (cwd_makeDirectories hmade)

/-! ### The way to a file -/

/-- The places that a way goes through are directories, so a new node at another kind of place is
not on it. -/
theorem walk_put {text : Text} {place target : Place} {names : List Text}
    (htarget : d.node? target ≠ some .directory)
    (h : d.walk text place names = .ok target) :
    (d.put target node).walk text place names = .ok target := by
  induction names generalizing place with
  | nil => exact h
  | cons s rest ih =>
      have hplace : d.node? place = some .directory := by
        rw [walk] at h
        split at h <;> simp_all
      have hne : place ≠ target := by
        rintro rfl
        exact htarget hplace
      simp only [walk, node?_put_of_ne d node hne, hplace] at h ⊢
      split at h
      · contradiction
      · rename_i hlimit
        rw [if_neg hlimit]
        exact ih h

theorem locate_put {target : Place} (htarget : d.node? target ≠ some .directory)
    (h : d.locate p = .ok target) : (d.put target node).locate p = .ok target := by
  unfold locate at h ⊢
  split at h
  · contradiction
  · exact walk_put htarget h

theorem node?_ne_directory_of_writeFile {place : Place} (hplace : d.locate p = .ok place)
    (h : d.writeFile p node = .ok d') : d.node? place ≠ some .directory := by
  intro hdirectory
  simp only [writeFile, hplace, ok_bind, hdirectory] at h
  contradiction

/-! ### Texts -/

/-- A path leads to a place that holds a text. -/
structure LeadsToText (d : Disk) (p : Path) (place : Place) (s : Text) : Prop where
  way : d.locate p = .ok place
  text : d.node? place = some (.text s)

variable {s t : Text} {place : Place}

theorem LeadsToText.put (h : d.LeadsToText p place s) (t : Text) :
    (d.put place (.text t)).LeadsToText p place t := by
  have hne : place ≠ [] := by
    rintro rfl
    cases h.text
  exact ⟨locate_put (by simp [h.text]) h.way, node?_put_self _ _ _ hne⟩

theorem leadsToText_of_writeFile (h : d.writeFile p (.text s) = .ok d') :
    ∃ place, d'.LeadsToText p place s := by
  obtain ⟨place, hplace, rfl⟩ := writeFile_eq_ok h
  have hnode := node?_ne_directory_of_writeFile hplace h
  have hne : place ≠ [] := by
    rintro rfl
    exact hnode rfl
  exact ⟨place, locate_put hnode hplace, node?_put_self _ _ _ hne⟩

/-- A text that was put into a file is read from it. -/
theorem readRaw_of_placeFile (h : d.placeFile p (.text s) = .ok d') : d'.readRaw p = .ok s := by
  obtain ⟨d₁, -, hwritten⟩ := bind_eq_ok_iff.mp h
  obtain ⟨place, hplace⟩ := leadsToText_of_writeFile hwritten
  simp only [readRaw, openFile, hplace.way, ok_bind, hplace.text]
  rfl

/-- So it is by any name of the file. -/
theorem readNamed_of_placeFile {name : Text} (h : d.placeFile (.ofText name) (.text s) = .ok d')
    (hname : namesDirectory name = false) : d'.readNamed name = .ok (Text.unifyLineEnds s) := by
  have hempty : name.isEmpty = false := by
    cases name with
    | nil => exact absurd hname (by decide)
    | cons c cs => rfl
  simp only [readNamed, hempty, hname, readText, readRaw_of_placeFile h]
  rfl

end BindingNames.Disk
