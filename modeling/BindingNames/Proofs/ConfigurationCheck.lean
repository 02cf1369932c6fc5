import BindingNames.Configuration.Places
import BindingNames.Library.Flags
import BindingNames.Proofs.Outcomes
import BindingNames.Proofs.PathText

/-!
The check of a configuration. It goes through whatever the settings hold, so it has a result only
for settings of the right kinds: paths have to be texts, and the disk has to answer whether anything
is there. A header is searched along a list of candidates; one of them that the disk cannot answer
for does no harm behind one that is there.
-/

namespace BindingNames

namespace Library.LinkFlags

/-- A search gets stuck at a path that the disk cannot answer for when nothing is there before. -/
theorem isOk_firstPresent_iff {present : Path → Except FileFault Bool} {paths : List Path} :
    (firstPresent present paths).isOk ↔
      ∀ front p rest, paths = front ++ p :: rest → (∀ q ∈ front, present q = .ok false) →
        (present p).isOk := by
  induction paths with
  | nil => simp [firstPresent]
  | cons q paths ih =>
      constructor
      · intro h front p rest hpaths hfront
        cases front with
        | nil =>
            obtain ⟨rfl, rfl⟩ := List.cons.inj hpaths
            cases hq : present q with
            | error fault => simp [firstPresent, hq] at h
            | ok there => rfl
        | cons r front =>
            obtain ⟨rfl, rfl⟩ := List.cons.inj hpaths
            obtain ⟨hq, hfront⟩ := List.forall_mem_cons.mp hfront
            simp only [firstPresent, hq] at h
            exact ih.mp h front p rest rfl hfront
      · intro h
        have hq := h [] q paths rfl (by simp)
        obtain ⟨there, hq⟩ := isOk_iff.mp hq
        cases there with
        | true => simp [firstPresent, hq]
        | false =>
            simp only [firstPresent, hq]
            refine ih.mpr fun front p rest hpaths hfront => ?_
            exact h (q :: front) p rest (by rw [hpaths]; rfl)
              (List.forall_mem_cons.mpr ⟨hq, hfront⟩)

end Library.LinkFlags

namespace Configuration

open Library.LinkFlags (firstPresent isOk_firstPresent_iff)

variable {d : Disk} {c : Configuration} {base : Text}

/-! ### Paths -/

/-- A path as it is seen from the base directory. -/
def seen (c : Configuration) (s : Text) : Path :=
  (Path.ofText (c.baseDir.asText?.getD "")).join (.ofText s)

theorem seen_eq (hbase : c.baseDir = .text base) (s : Text) :
    c.seen s = (Path.ofText base).join (.ofText s) := by
  rw [seen, hbase]
  rfl

theorem isProper_seen (hbase : c.baseDir = .text base) (s : Text) : (c.seen s).IsProper := by
  rw [seen_eq hbase]
  exact (Path.isProper_ofText base).join (Path.isProper_ofText s)

theorem pathOf_text (s : Text) : pathOf (.text s) = .ok (.ofText s) := rfl

theorem isOk_pathOf_iff {v : Value} : (pathOf v).isOk ↔ ∃ s, v = .text s := by
  constructor
  · intro h
    unfold pathOf at h
    split at h
    · rename_i s
      exact ⟨s, rfl⟩
    · contradiction
  · rintro ⟨s, rfl⟩
    rfl

theorem placed_text (hbase : c.baseDir = .text base) (s : Text) :
    c.placed (.text s) = .ok (c.seen s) := by
  rw [seen_eq hbase, placed, pathOf_text]
  cases habsolute : (Path.ofText s).isAbsolute with
  | true => simp [habsolute]
  | false => simp [habsolute, hbase, pathOf_text]

theorem exists_text_of_placed {v : Value} (h : (c.placed v).isOk) : ∃ s, v = .text s := by
  obtain ⟨p, hp, -⟩ := isOk_bind.mp h
  exact isOk_pathOf_iff.mp (isOk_iff.mpr ⟨p, hp⟩)

theorem isThere_isOk {p : Path} : (isThere d p).isOk = (d.has p).isOk :=
  isOk_mapError _ _

/-- A path that a value names: the value is a text, and the disk can tell whether anything is
there. -/
def CanLocate (d : Disk) (c : Configuration) (v : Value) : Prop :=
  ∃ s, v = .text s ∧ (d.has (c.seen s)).isOk

theorem isOk_placed_bind {α : Type} (hbase : c.baseDir = .text base) {v : Value}
    {f : Path → Except Failure α} :
    (c.placed v >>= f).isOk ↔ ∃ s, v = .text s ∧ (f (c.seen s)).isOk := by
  rw [isOk_bind]
  constructor
  · rintro ⟨p, hp, hf⟩
    obtain ⟨s, rfl⟩ := exists_text_of_placed (isOk_iff.mpr ⟨p, hp⟩)
    rw [placed_text hbase] at hp
    exact ⟨s, rfl, (Except.ok.inj hp) ▸ hf⟩
  · rintro ⟨s, rfl, hf⟩
    exact ⟨_, placed_text hbase s, hf⟩

/-! ### Headers -/

/-- The places where a header is looked for: the base directory and the include paths. -/
def candidates (c : Configuration) (header : Text) : List Path :=
  c.seen header ::
    (c.includePaths.filterMap Value.asText?).map fun s => (c.seen s).join (.ofText header)

theorem eq_map_text_of_forall {vs : List Value} (h : ∀ v ∈ vs, ∃ s, v = .text s) :
    vs = (vs.filterMap Value.asText?).map Value.text := by
  induction vs with
  | nil => rfl
  | cons v rest ih =>
      obtain ⟨⟨s, rfl⟩, hrest⟩ := List.forall_mem_cons.mp h
      rw [List.filterMap_cons_some (Value.asText?_text s), List.map_cons, ← ih hrest]

theorem findIncluded_texts (hbase : c.baseDir = .text base) (header : Text) (includes : List Text) :
    findIncluded d c (.text header) (includes.map Value.text) =
      (firstPresent d.has
        (includes.map fun s => (c.seen s).join (.ofText header))).mapError Failure.file := by
  induction includes with
  | nil => rfl
  | cons s rest ih =>
      simp only [List.map_cons, findIncluded, placed_text hbase, pathOf_text, ok_bind, isThere,
        firstPresent]
      cases hthere : d.has ((c.seen s).join (.ofText header)) with
      | error fault => rfl
      | ok there =>
          cases there with
          | true => rfl
          | false => simpa using ih

/-- A header is at the first of its candidates that is there. -/
theorem findHeader_text (hbase : c.baseDir = .text base)
    (hincludes : ∀ v ∈ c.includePaths, ∃ s, v = .text s) (header : Text) :
    c.findHeader d (.text header) =
      (firstPresent d.has (c.candidates header)).mapError Failure.file := by
  have hothers := findIncluded_texts (d := d) hbase header (c.includePaths.filterMap Value.asText?)
  rw [← eq_map_text_of_forall hincludes] at hothers
  simp only [findHeader, placed_text hbase, ok_bind, candidates, firstPresent, isThere]
  cases hthere : d.has (c.seen header) with
  | error fault => rfl
  | ok there =>
      cases there with
      | true => rfl
      | false => exact hothers

/-- A header that a value names: the value is a text, and each candidate that the disk cannot answer
for stands behind one that is there. -/
def CanSearch (d : Disk) (c : Configuration) (v : Value) : Prop :=
  ∃ s, v = .text s ∧ ∀ front p rest, c.candidates s = front ++ p :: rest →
    (∀ q ∈ front, d.has q = .ok false) → (d.has p).isOk

theorem isOk_findHeader_iff (hbase : c.baseDir = .text base)
    (hincludes : ∀ v ∈ c.includePaths, ∃ s, v = .text s) {v : Value} :
    (c.findHeader d v).isOk ↔ CanSearch d c v := by
  have htext (s : Text) : (c.findHeader d (.text s)).isOk ↔
      ∀ front p rest, c.candidates s = front ++ p :: rest →
        (∀ q ∈ front, d.has q = .ok false) → (d.has p).isOk := by
    rw [findHeader_text hbase hincludes, isOk_mapError, isOk_firstPresent_iff]
  constructor
  · intro h
    obtain ⟨p, hp, -⟩ := isOk_bind.mp h
    obtain ⟨s, rfl⟩ := exists_text_of_placed (isOk_iff.mpr ⟨p, hp⟩)
    exact ⟨s, rfl, (htext s).mp h⟩
  · rintro ⟨s, rfl, h⟩
    exact (htext s).mpr h

theorem isOk_headerComplaints_iff {vs : List Value} :
    (headerComplaints d c vs).isOk ↔ ∀ v ∈ vs, (c.findHeader d v).isOk := by
  induction vs with
  | nil => simp [headerComplaints]
  | cons v rest ih =>
      rw [List.forall_mem_cons, ← ih]
      exact isOk_bind_and fun found _ => by simp

theorem headerList_eq_ok_iff {vs : List Value} :
    c.headerList = .ok vs ↔ c.headers.members? = some vs := by
  unfold headerList
  cases c.headers.members? <;> simp

/-! ### Sources of rules -/

theorem holds_null : Value.null.holds = false := rfl

theorem holds_text_iff {s : Text} : (Value.text s).holds ↔ s ≠ [] := by
  cases s with
  | nil => simp [Value.text, Value.holds, Scalar.holds]
  | cons c cs => simp [Value.text, Value.holds, Scalar.holds]

/-- Of a source that is a mapping only the path changes. -/
theorem placedSource_of_bare {fields : Fields} (hholds : c.rulesSource.holds)
    (hbare : c.rulesSource.bare = .map fields) :
    c.placedSource =
      match Value.get? (.text "path") fields with
      | none => .ok fields
      | some v =>
        if v.holds then
          c.placed v >>= fun p => .ok (Value.put (.text "path") (.text p.toText) fields)
        else .ok fields := by
  cases hpath : Value.get? (.text "path") fields <;>
    simp [placedSource, hholds, Value.toFields, hbare, hpath]

/-! ### The whole check -/

theorem isOk_checkIncludes_iff (hbase : c.baseDir = .text base) {vs : List Value} :
    (checkIncludes d c vs).result.isOk ↔ ∀ v ∈ vs, CanLocate d c v := by
  induction vs with
  | nil => simp [checkIncludes]
  | cons v rest ih =>
      rw [List.forall_mem_cons, ← ih]
      simp only [checkIncludes, Logged.result_bind, Logged.result_lift, isOk_placed_bind hbase,
        CanLocate]
      rw [← exists_and_right]
      refine exists_congr fun s => ?_
      rw [and_assoc, ← isThere_isOk]
      -- a warning comes in between, or not, and the rest goes on as it would
      exact and_congr_right fun _ => isOk_bind_and fun there _ => by
        cases there <;> simp [Logged.tell]

/-- What the check looks at in the source of rules: it holds nothing, or it is a mapping whose path,
if that holds anything, can be located. -/
def CanLocateRules (d : Disk) (c : Configuration) : Prop :=
  c.rulesSource.holds → ∃ fields, c.rulesSource.bare = .map fields ∧
    ∀ v, Value.get? (.text "path") fields = some v → v.holds → CanLocate d c v

/-- The part of the check behind the path of a source of rules. -/
theorem isOk_rulesPath_located (hbase : c.baseDir = .text base) (v : Value) :
    (do if !v.holds then return []
        else if ← isThere d (← c.placed v) then return []
        else return ["Rules source not found: " ++ v.plain]
      : Except Failure (List Text)).isOk ↔ (v.holds → CanLocate d c v) := by
  cases v.holds with
  | false => simp
  | true =>
      simp only [Bool.not_true, Bool.false_eq_true, if_false, isOk_placed_bind hbase, CanLocate,
        forall_const]
      refine exists_congr fun s => and_congr_right fun _ => ?_
      rw [← isThere_isOk, isOk_bind_and (P := True) fun there _ => by cases there <;> simp,
        and_true]

theorem isOk_rulesComplaints_iff (hbase : c.baseDir = .text base) :
    (c.rulesComplaints d).isOk ↔ CanLocateRules d c := by
  unfold rulesComplaints rulesPath CanLocateRules
  cases c.rulesSource.holds with
  | false => simp [holds_null]
  | true =>
      cases c.rulesSource.bare with
      | map fields =>
          simp only [Bool.not_true, Bool.false_eq_true, if_false, pure_bind,
            isOk_rulesPath_located hbase, forall_const, Value.map.injEq, exists_eq_left']
          cases Value.get? (.text "path") fields with
          | none => simp [holds_null]
          | some v => simp
      | _ => simp

theorem isOk_styleComplaints_iff : c.styleComplaints.isOk ↔ c.nameStyle.isShown := by
  unfold styleComplaints NameStyle.ofSetting
  cases hstyle : (c.nameStyle.asText?.bind fun s => NameStyle.all.find? (·.name == s)) with
  | none => cases c.nameStyle.isShown <;> simp
  | some style =>
      obtain ⟨s, hs, -⟩ := Option.bind_eq_some_iff.mp hstyle
      have hshown : c.nameStyle.isShown := by
        rw [Value.asText?_eq_some_iff.mp hs]
        rfl
      simpa using hshown

/-- The settings are such that the check has a result. -/
structure Checkable (d : Disk) (c : Configuration) : Prop where
  /-- A complaint shows the style, and a number can have too many digits for that. -/
  style : c.nameStyle.isShown
  includes : ∀ v ∈ c.includePaths, CanLocate d c v
  headers : ∃ vs, c.headers.members? = some vs ∧ ∀ v ∈ vs, CanSearch d c v
  rules : CanLocateRules d c

theorem isOk_validate_iff (hbase : c.baseDir = .text base) :
    (c.validate d).result.isOk ↔ Checkable d c := by
  have hvalidate : (c.validate d).result.isOk ↔
      c.styleComplaints.isOk ∧ (checkIncludes d c c.includePaths).result.isOk ∧
        (∃ vs, c.headerList = .ok vs ∧ (headerComplaints d c vs).isOk) ∧
        (c.rulesComplaints d).isOk := by
    simp only [validate, Logged.result_bind, Logged.result_lift, Logged.result_pure]
    refine isOk_bind_and fun styles _ => isOk_bind_and fun _ _ => ?_
    rw [isOk_bind, ← exists_and_right]
    refine exists_congr fun vs => ?_
    rw [and_assoc]
    exact and_congr_right fun _ => isOk_bind_and fun missing _ => by simp
  have hheaders (hincludes : ∀ v ∈ c.includePaths, CanLocate d c v) :
      (∃ vs, c.headerList = .ok vs ∧ (headerComplaints d c vs).isOk) ↔
        ∃ vs, c.headers.members? = some vs ∧ ∀ v ∈ vs, CanSearch d c v := by
    have htexts : ∀ v ∈ c.includePaths, ∃ s, v = .text s :=
      fun v hv => (hincludes v hv).imp fun s h => h.1
    simp only [headerList_eq_ok_iff, isOk_headerComplaints_iff, isOk_findHeader_iff hbase htexts]
  rw [hvalidate, isOk_styleComplaints_iff, isOk_checkIncludes_iff hbase,
    isOk_rulesComplaints_iff hbase]
  constructor
  · rintro ⟨hstyle, hincludes, hsearch, hrules⟩
    exact ⟨hstyle, hincludes, (hheaders hincludes).mp hsearch, hrules⟩
  · rintro ⟨hstyle, hincludes, hsearch, hrules⟩
    exact ⟨hstyle, hincludes, (hheaders hincludes).mpr hsearch, hrules⟩

end Configuration

end BindingNames
