import BindingNames.Proofs.WordText
import BindingNames.RuleTable
import Mathlib.Data.List.Forall2

/-!
Rules that a table accepts. A draft is accepted exactly when its pattern and its new name are
identifiers, up to a line feed, and its target is there where its directive needs one; the rule
keeps all that the draft says. A table of drafts has their rules in the same order.
-/

namespace BindingNames

theorem Identifier.not_accepts_nil : Identifier.accepts [] = false := rfl

/-- A new name that is accepted has word characters only, but for a line feed that may end it. -/
theorem Identifier.isWordChar_or_lineFeed_of_accepts {s : Text} (h : Identifier.accepts s)
    {c : Code} (hc : c ∈ s) : Identifier.isWordChar c ∨ c = .char '\n' := by
  by_cases hlast : s.getLast? = some (.char '\n')
  · rw [← List.dropLast_append_getLast? _ hlast] at h hc
    rw [Identifier.accepts_append_lineFeed] at h
    rcases List.mem_append.mp hc with hc | hc
    · exact .inl (Text.isWord_of_isIdentifier h c hc)
    · exact .inr (List.mem_singleton.mp hc)
  · rw [Identifier.accepts_eq hlast] at h
    exact .inl (Text.isWord_of_isIdentifier h c hc)

namespace RuleDraft

theorem check_eq_ok_iff {d : RuleDraft} {r : NamingRule} :
    d.check = .ok r ↔
      d = ⟨r.toRuleBody, .text r.pattern⟩ ∧ Identifier.accepts r.pattern ∧
        bodyFault r.toRuleBody = none := by
  obtain ⟨body, pattern⟩ := d
  obtain ⟨body', name⟩ := r
  constructor
  · intro h
    simp only [check] at h
    split at h
    · contradiction
    · split at h
      · split at h
        · contradiction
        · rename_i haccepts
          split at h
          · contradiction
          · rename_i hfault
            cases h
            exact ⟨rfl, by simpa using haccepts, hfault⟩
      · contradiction
  · rintro ⟨hd, haccepts, hfault⟩
    cases hd
    have hholds : (Scalar.text name).holds = true := by
      cases name with
      | nil => rw [Identifier.not_accepts_nil] at haccepts; contradiction
      | cons c cs => rfl
    simp only [check, hholds, haccepts, hfault]
    rfl

/-- A rule that renames has a new name, and the name is accepted. -/
theorem exists_newName {d : RuleDraft} {r : NamingRule} (h : d.check = .ok r)
    (hr : r.directive = .rename) : ∃ s, r.newName = some s ∧ Identifier.accepts s := by
  obtain ⟨-, -, hfault⟩ := check_eq_ok_iff.mp h
  simp only [bodyFault, hr] at hfault
  split at hfault
  · contradiction
  · rename_i s hs
    split at hfault
    · rename_i haccepts
      exact ⟨s, hs, haccepts⟩
    · contradiction

end RuleDraft

namespace RuleTable

theorem ofDrafts_eq_ok_iff {drafts : List RuleDraft} {t : RuleTable} :
    ofDrafts drafts = .ok t ↔ List.Forall₂ (fun d r => d.check = .ok r) drafts t.rules := by
  have general : ∀ rules, drafts.mapM RuleDraft.check = .ok rules ↔
      List.Forall₂ (fun d r => d.check = .ok r) drafts rules := by
    induction drafts with
    | nil =>
        intro rules
        rw [List.forall₂_nil_left_iff, List.mapM_nil]
        exact ⟨fun h => (Except.ok.inj h).symm, fun h => congrArg Except.ok h.symm⟩
    | cons d rest ih =>
        intro rules
        rw [List.mapM_cons, List.forall₂_cons_left_iff]
        constructor
        · intro h
          cases hd : d.check with
          | error e => rw [hd] at h; contradiction
          | ok r =>
              cases hrest : rest.mapM RuleDraft.check with
              | error e => rw [hd, hrest] at h; contradiction
              | ok rs =>
                  rw [hd, hrest] at h
                  cases h
                  exact ⟨r, rs, rfl, (ih rs).mp hrest, rfl⟩
        · rintro ⟨r, rs, hd, hrest, rfl⟩
          rw [hd, (ih rs).mpr hrest]
          rfl
  rw [← general]
  simp only [ofDrafts]
  cases drafts.mapM RuleDraft.check with
  | error e => exact ⟨fun h => by contradiction, fun h => by contradiction⟩
  | ok rules =>
      constructor
      · intro h
        cases h
        rfl
      · intro h
        cases h
        rfl

/-- Every rule of a table that is built comes from a draft. -/
theorem exists_draft {drafts : List RuleDraft} {t : RuleTable} (h : ofDrafts drafts = .ok t)
    {r : NamingRule} (hr : r ∈ t.rules) : ∃ d ∈ drafts, d.check = .ok r := by
  have hall := ofDrafts_eq_ok_iff.mp h
  obtain ⟨i, hi, rfl⟩ := List.getElem_of_mem hr
  have hlength := hall.length_eq
  exact ⟨drafts[i], List.getElem_mem _, hall.get (by omega) hi⟩

/-- The rule that renames under a key has a new name, and the name is accepted. -/
theorem exists_newName {drafts : List RuleDraft} {t : RuleTable} (h : ofDrafts drafts = .ok t)
    {key : Text} {r : NamingRule} (hr : t.renameRule key = some r) :
    ∃ s, r.newName = some s ∧ Identifier.accepts s := by
  obtain ⟨hmem, hdirective, -⟩ := lookup_mem hr
  obtain ⟨d, -, hcheck⟩ := exists_draft h hmem
  refine RuleDraft.exists_newName hcheck ?_
  cases hd : r.directive <;> simp_all [Directive.isRole]

end RuleTable

end BindingNames
