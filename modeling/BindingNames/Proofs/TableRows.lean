import BindingNames.Proofs.Outcomes
import BindingNames.Proofs.SymbolMap
import BindingNames.Rules.Frame
import Mathlib.Data.List.Nodup

/-!
Rows of a table. Labels that all differ stay as they are, and a cell is found by the label of its
column wherever the column stands. So what a row gives does not depend on the order of the columns.
-/

namespace BindingNames.Frame

/-! ### Labels -/

namespace Labels

variable {names : List Text} {counts : List (Scalar × Nat)} {i : Nat}

theorem settle_eq (hi : i < names.length)
    (h : count ⟨names.map .text, counts⟩ (.text names[i]) = 0) :
    settle ⟨names.map .text, counts⟩ i =
      ⟨names.map .text, (.text names[i], 1) :: counts⟩ := by
  have hfirst : (names.map Scalar.text).getD i .null = .text names[i] := by
    simp [List.getD_eq_getElem?_getD, hi]
  have hsettled (fuel : Nat) (first name : Scalar) (x : Labels) :
      settled first fuel 0 name x = (name, x) := by
    cases fuel <;> rfl
  have hset : (names.map Scalar.text).set i (.text names[i]) = names.map .text := by
    rw [← List.map_set, List.set_getElem_self]
  simp only [settle, hfirst, h, hsettled, hset, setCount]

/-- Labels that all differ stay as they are. -/
theorem names_foldl_settle (hnodup : names.Nodup) (front back : List Text)
    (hnames : names = front ++ back)
    (hcounts : ∀ name ∈ back, count ⟨names.map .text, counts⟩ (.text name) = 0) :
    ((List.range' front.length back.length).foldl settle ⟨names.map .text, counts⟩).names =
      names.map .text := by
  induction back generalizing front counts with
  | nil => rfl
  | cons name back ih =>
      have hi : front.length < names.length := by simp [hnames]
      have hname : names[front.length] = name := by simp [hnames]
      obtain ⟨hcount, hcounts⟩ := List.forall_mem_cons.mp hcounts
      rw [List.length_cons, List.range'_succ, List.foldl_cons,
        settle_eq hi (by rw [hname]; exact hcount), hname]
      have hlength : front.length + 1 = (front ++ [name]).length := by simp
      rw [hlength]
      refine ih (front ++ [name]) (by simp [hnames]) fun other hother => ?_
      have hne : name ≠ other := by
        rintro rfl
        rw [hnames, List.nodup_append] at hnodup
        exact (List.nodup_cons.mp hnodup.2.1).1 hother
      have hkey : (Scalar.text name).sameKey (.text other) = false :=
        Scalar.sameKey_text_of_ne fun h => hne (Scalar.text.inj h)
      rw [count, List.find?_cons_of_neg (by simp [hkey])]
      exact hcounts other hother

end Labels

theorem columnNames_eq {names : List Text} (hnodup : names.Nodup)
    (hnonempty : ∀ s ∈ names, s ≠ []) : columnNames (names.map .text) = names.map .text := by
  have hnamed : ∀ f ∈ (names.map Scalar.text).zipIdx, isUnnamed f.1 = false := by
    intro f hf
    obtain ⟨s, hs, heq⟩ := List.mem_map.mp (List.fst_mem_of_mem_zipIdx hf)
    rw [← heq, isUnnamed, beq_eq_false_iff_ne]
    exact fun h => hnonempty s hs (Scalar.text.inj h)
  have hlabels : ((names.map Scalar.text).zipIdx.map fun f =>
      if isUnnamed f.1 then .text ("Unnamed: " ++ Text.ofNat f.2) else f.1) = names.map .text := by
    conv_rhs => rw [← List.zipIdx_map_fst 0 (names.map Scalar.text)]
    exact List.map_congr_left fun f hf => by rw [hnamed f hf, if_neg Bool.false_ne_true]
  have horder : ((names.map Scalar.text).zipIdx.filter (!isUnnamed ·.1) ++
      (names.map Scalar.text).zipIdx.filter (isUnnamed ·.1)).map (·.2) =
        List.range' 0 names.length := by
    rw [List.filter_eq_self.mpr fun f hf => by simp [hnamed f hf],
      List.filter_eq_nil_iff.mpr fun f hf => by simp [hnamed f hf], List.append_nil]
    simp
  have hsettled : ((List.range' 0 names.length).foldl Labels.settle
      ⟨names.map .text, []⟩).names = names.map .text :=
    Labels.names_foldl_settle hnodup [] names rfl fun _ _ => rfl
  dsimp only [columnNames]
  rw [horder, hlabels]
  exact hsettled

/-! ### Cells -/

variable {names : List Text} {name : Text}

theorem present?_eq_some_iff {s t : Text} : present? s = some t ↔ s = t ∧ s ∉ missingWords := by
  rw [present?]
  split <;> simp_all

theorem column?_of_mem (h : name ∈ names) :
    ∃ i, column? (names.map .text) (.text name) = some i ∧ names[i]? = some name := by
  have hadmits : admits (names.map .text) (.text name) := by
    cases names with
    | nil => contradiction
    | cons other names => rfl
  have hsome : ((names.map Scalar.text).findIdx? (·.sameKey (.text name))).isSome := by
    rw [List.findIdx?_isSome]
    exact List.any_eq_true.mpr ⟨.text name, List.mem_map_of_mem h, Scalar.sameKey_refl _⟩
  obtain ⟨i, hi⟩ := Option.isSome_iff_exists.mp hsome
  obtain ⟨hlength, hkey, -⟩ := List.findIdx?_eq_some_iff_getElem.mp hi
  rw [List.getElem_map, Scalar.sameKey_text_iff] at hkey
  refine ⟨i, by rw [column?, if_pos hadmits, hi], ?_⟩
  rw [← Scalar.text.inj hkey]
  exact List.getElem?_eq_getElem _

theorem cell?_of_mem (h : name ∈ names) (g : Text → Option Text) :
    cell? (names.map .text) (names.map g) (.text name) = .ok (g name) := by
  obtain ⟨i, hcolumn, hi⟩ := column?_of_mem h
  show Except.ok ((column? _ (.text name)).bind fun i => ((names.map g)[i]?).join) = _
  simp [hcolumn, hi]

theorem entryFields_map {wanted : List Text} (h : ∀ name ∈ wanted, name ∈ names)
    (g : Text → Option Text) :
    entryFields (names.map .text) (names.map g) (wanted.map fun s => (.text s, .text s)) =
      .ok (wanted.filterMap fun s =>
        let t := Text.trim ((g s).getD "")
        if t.isEmpty then none else some (.text s, .text t)) := by
  induction wanted with
  | nil => rfl
  | cons s wanted ih =>
      obtain ⟨hs, hwanted⟩ := List.forall_mem_cons.mp h
      rw [List.map_cons, entryFields, cell?_of_mem hs, ih hwanted, List.filterMap_cons]
      simp only [ok_bind, pure_eq_ok]
      split <;> rfl

/-! ### Lines -/

/-- Lines that are as wide as the header have a column for each cell. -/
theorem ofLines_eq {header : List Text} {rows : List (List Text)}
    (h : ∀ row ∈ rows, row.length = header.length) :
    ofLines (header :: rows) =
      .ok ⟨columnNames (header.map .text), rows.map fun row => row.map present?⟩ := by
  cases rows with
  | nil => rfl
  | cons first rows => simp [ofLines, h first List.mem_cons_self]

end BindingNames.Frame
