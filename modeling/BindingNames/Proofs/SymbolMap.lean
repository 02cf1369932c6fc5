import BindingNames.Rules.RuleSet

/-!
What the entries of a symbol map say. Each entry speaks for its key alone. It has drafts of its own,
which are exact rules for the key, or it says that the key is ignored; a map puts the drafts of its
entries one after the other.
-/

namespace BindingNames

theorem Scalar.sameKey_text_iff {key : Scalar} {s : Text} :
    key.sameKey (.text s) ↔ key = .text s := by
  cases key with
  | float x => cases h : x.toInt? <;> simp [sameKey, sameSingle, number?, h]
  | _ => simp [sameKey, sameSingle, sameOther, number?]

theorem Scalar.sameKey_text_of_ne {key : Scalar} {s : Text} (h : key ≠ .text s) :
    key.sameKey (.text s) = false := by
  rw [Bool.eq_false_iff]
  exact fun hsame => h (sameKey_text_iff.mp hsame)

namespace RuleSet

/-! ### Ignored symbols -/

theorem ignores_iff {s : RuleSet} {symbol : Text} :
    s.ignores symbol ↔ Scalar.text symbol ∈ s.ignored := by
  simp only [ignores, List.any_eq_true, Scalar.sameKey_text_iff]
  constructor
  · rintro ⟨key, hmem, rfl⟩
    exact hmem
  · intro hmem
    exact ⟨_, hmem, rfl⟩

theorem text_mem_insertKey {key : Scalar} {keys : List Scalar} {symbol : Text} :
    .text symbol ∈ insertKey key keys ↔ .text symbol ∈ keys ∨ key = .text symbol := by
  simp only [insertKey]
  split
  · rename_i hany
    refine ⟨Or.inl, ?_⟩
    rintro (hmem | rfl)
    · exact hmem
    · obtain ⟨other, hmem, hsame⟩ := List.any_eq_true.mp hany
      rw [Scalar.sameKey_text_iff] at hsame
      exact hsame ▸ hmem
  · rw [List.mem_append, List.mem_singleton, eq_comm (a := key)]

@[simp] theorem ignores_ignore {s : RuleSet} {key : Scalar} {symbol : Text} :
    (s.ignore key).ignores symbol ↔ s.ignores symbol ∨ key = .text symbol := by
  rw [ignores_iff, ignores_iff]
  exact text_mem_insertKey

@[simp] theorem ignores_add (s : RuleSet) (drafts : List RuleDraft) (symbol : Text) :
    (s.add drafts).ignores symbol = s.ignores symbol := rfl

/-! ### Entries -/

def entryDrafts (field : Scalar × Value) : List RuleDraft :=
  match targetText field.2 with
  | .ok target => if target == ignoreMark then [] else mappedDrafts field.1 target
  | .error _ => []

def EntryIgnores (symbol : Text) (field : Scalar × Value) : Prop :=
  targetText field.2 = .ok ignoreMark ∧ field.1 = .text symbol

theorem exact_of_mem_mappedDrafts {symbol : Scalar} {target : Text} {d : RuleDraft}
    (h : d ∈ mappedDrafts symbol target) : d.kind = .exact ∧ d.pattern = symbol := by
  cases target with
  | nil =>
      rw [List.mem_singleton.mp h]
      exact ⟨rfl, rfl⟩
  | cons c cs =>
      simp only [mappedDrafts] at h
      split at h
      · rcases List.mem_cons.mp h with rfl | h
        · exact ⟨rfl, rfl⟩
        · split at h
          · contradiction
          · rw [List.mem_singleton.mp h]
            exact ⟨rfl, rfl⟩
      · rcases List.mem_cons.mp h with rfl | h
        · exact ⟨rfl, rfl⟩
        · split at h
          · contradiction
          · rw [List.mem_singleton.mp h]
            exact ⟨rfl, rfl⟩

theorem exact_of_mem_entryDrafts {field : Scalar × Value} {d : RuleDraft}
    (h : d ∈ entryDrafts field) : d.kind = .exact ∧ d.pattern = field.1 := by
  simp only [entryDrafts] at h
  split at h
  · split at h
    · contradiction
    · exact exact_of_mem_mappedDrafts h
  · contradiction

theorem addMapped_eq_ok {s t : RuleSet} {field : Scalar × Value}
    (h : s.addMapped field = .ok t) :
    t.drafts = s.drafts ++ entryDrafts field ∧
      ∀ symbol, t.ignores symbol ↔ s.ignores symbol ∨ EntryIgnores symbol field := by
  simp only [addMapped] at h
  cases htarget : targetText field.2 with
  | error e => rw [htarget] at h; contradiction
  | ok target =>
      rw [htarget] at h
      by_cases hmark : target = ignoreMark
      · subst hmark
        cases h
        refine ⟨by simp [entryDrafts, htarget, ignore], ?_⟩
        intro symbol
        simp [EntryIgnores, htarget]
      · have hne : (target == ignoreMark) = false := beq_eq_false_iff_ne.mpr hmark
        change (if target == ignoreMark then _ else _) = _ at h
        rw [hne] at h
        cases h
        refine ⟨by simp [entryDrafts, htarget, hmark, add], ?_⟩
        intro symbol
        simp [EntryIgnores, htarget, hmark]

/-- The entries of a symbol map do not interfere. -/
theorem ofFields_eq_ok {fields : Fields} {s : RuleSet} (h : ofFields fields = .ok s) :
    s.drafts = fields.flatMap entryDrafts ∧
      ∀ symbol, s.ignores symbol ↔ ∃ field ∈ fields, EntryIgnores symbol field := by
  have general : ∀ start : RuleSet, fields.foldlM addMapped start = .ok s →
      s.drafts = start.drafts ++ fields.flatMap entryDrafts ∧
        ∀ symbol, s.ignores symbol ↔
          start.ignores symbol ∨ ∃ field ∈ fields, EntryIgnores symbol field := by
    clear h
    induction fields with
    | nil =>
        intro start h
        cases h
        simp
    | cons field rest ih =>
        intro start h
        rw [List.foldlM_cons] at h
        cases hfield : start.addMapped field with
        | error e => rw [hfield] at h; contradiction
        | ok next =>
            rw [hfield] at h
            obtain ⟨hdrafts, hignores⟩ := ih next h
            obtain ⟨hnext, hkey⟩ := addMapped_eq_ok hfield
            constructor
            · rw [hdrafts, hnext, List.flatMap_cons, List.append_assoc]
            · intro symbol
              rw [hignores, hkey, or_assoc]
              simp only [List.mem_cons, or_and_right, exists_or, exists_eq_left]
  simpa [empty, ignores] using general empty h

/-- An entry put into a symbol map ignores its key, if it has the mark for that. -/
theorem ignores_entry (front back : Fields) {key : Text} {v : Value} {s new : RuleSet}
    (hs : ofFields (front ++ back) = .ok s)
    (hnew : ofFields (front ++ (.text key, v) :: back) = .ok new) (symbol : Text) :
    new.ignores symbol ↔
      s.ignores symbol ∨ (targetText v = .ok ignoreMark ∧ key = symbol) := by
  rw [(ofFields_eq_ok hs).2, (ofFields_eq_ok hnew).2]
  simp only [List.mem_append, List.mem_cons, or_and_right, exists_or, exists_eq_left, EntryIgnores,
    Scalar.text.injEq]
  rw [← or_assoc, or_right_comm]

end RuleSet

end BindingNames
