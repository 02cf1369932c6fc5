import BindingNames.Proofs.NameForm
import BindingNames.Proofs.Outcomes

/-!
Which rules a table accepts, and what it says about others. A rule has to have a name as its
pattern, a target if it keeps a method and a name as its new name if it renames. What passes for a
name is an identifier, but also an identifier with a line feed behind it. So a table with such a
name is accepted although it is not well formed, and that is the only difference. Otherwise building
the table fails with the first rule that lacks something, and with what it lacks.
-/

namespace BindingNames

open Identifier

/-- What passes for a name: an identifier, behind which there may be a line feed. -/
def Identifier.IsLine (s : Text) : Prop :=
  ∃ name, isIdentifier name ∧ (s = name ∨ s = name ++ [.char '\n'])

namespace RuleDraft

/-- A draft has all that its directive asks for, where `IsName` holds of the texts that are
names. -/
structure Conforms (IsName : Text → Prop) (d : RuleDraft) : Prop where
  pattern : ∃ s, d.pattern = .text s ∧ IsName s
  target : d.directive = .keepMethod → ∃ type, d.target = some type ∧ type ≠ []
  newName : d.directive = .rename → ∃ s, d.newName = some s ∧ IsName s

/-- A draft with identifiers for its names. -/
def WellFormed (d : RuleDraft) : Prop :=
  d.Conforms (isIdentifier ·)

/-- What a draft lacks. It is asked for its pattern first. -/
inductive Lacks (IsName : Text → Prop) (d : RuleDraft) : PatternFault → Prop where
  | empty (hpattern : d.pattern.holds = false) : Lacks IsName d .empty
  | notIdentifier {s : Text} (hpattern : d.pattern = .text s) (hne : s ≠ []) (hs : ¬ IsName s) :
      Lacks IsName d .notIdentifier
  | noTarget {s : Text} (hpattern : d.pattern = .text s) (hs : IsName s)
      (hdirective : d.directive = .keepMethod)
      (htarget : ∀ type, d.target = some type → type = []) : Lacks IsName d .noTarget
  | badNewName {s : Text} (hpattern : d.pattern = .text s) (hs : IsName s)
      (hdirective : d.directive = .rename) (hname : ∀ name, d.newName = some name → ¬ IsName name) :
      Lacks IsName d (.badNewName d.newName)

def IsForeign (d : RuleDraft) : Prop :=
  d.pattern.holds ∧ ∀ s, d.pattern ≠ .text s

def HasLineFeed (d : RuleDraft) : Prop :=
  (∃ s, d.pattern = .text s ∧ s.getLast? = some (.char '\n')) ∨
    d.directive = .rename ∧ ∃ s, d.newName = some s ∧ s.getLast? = some (.char '\n')

end RuleDraft

/-! ### Names -/

namespace Identifier

theorem accepts_iff_isLine {s : Text} : accepts s ↔ IsLine s := by
  constructor
  · intro h
    by_cases hlast : s.getLast? = some (.char '\n')
    · rw [← List.dropLast_append_getLast? _ hlast] at h ⊢
      rw [accepts_append_lineFeed] at h
      exact ⟨_, h, .inr rfl⟩
    · exact ⟨s, (isIdentifier_iff_of_accepts h).mpr hlast, .inl rfl⟩
  · rintro ⟨name, hname, rfl | rfl⟩
    · have hword := Text.isWord_of_isIdentifier hname
      rw [accepts_eq]
      · exact hname
      · intro hlast
        exact absurd (hword _ (List.mem_of_getLast? hlast)) (by decide)
    · rwa [accepts_append_lineFeed]

theorem isIdentifier_iff_isLine {s : Text} :
    isIdentifier s ↔ IsLine s ∧ s.getLast? ≠ some (.char '\n') := by
  rw [← accepts_iff_isLine]
  constructor
  · intro h
    have haccepts : accepts s := accepts_iff_isLine.mpr ⟨s, h, .inl rfl⟩
    exact ⟨haccepts, (isIdentifier_iff_of_accepts haccepts).mp h⟩
  · rintro ⟨haccepts, hlast⟩
    exact (isIdentifier_iff_of_accepts haccepts).mpr hlast

end Identifier

/-! ### One draft -/

namespace RuleDraft

variable {d : RuleDraft}

theorem nonempty?_target_eq_none_iff {target : Option Text} :
    nonempty? target = none ↔ ∀ type, target = some type → type = [] := by
  rw [Option.eq_none_iff_forall_ne_some]
  constructor
  · intro h type htype
    by_contra hne
    exact h type (nonempty?_eq_some.mpr ⟨htype, by simpa using hne⟩)
  · intro h type htype
    obtain ⟨htype, hne⟩ := nonempty?_eq_some.mp htype
    simp [h type htype] at hne

theorem bodyFault_eq_none_iff {b : RuleBody} :
    bodyFault b = none ↔
      (b.directive = .keepMethod → ∃ type, b.target = some type ∧ type ≠ []) ∧
        (b.directive = .rename → ∃ s, b.newName = some s ∧ IsLine s) := by
  cases hdirective : b.directive with
  | stripOwner => simp [bodyFault, hdirective]
  | keepFunction => simp [bodyFault, hdirective]
  | keepMethod =>
      have htarget : nonempty? b.target ≠ none ↔ ∃ type, b.target = some type ∧ type ≠ [] := by
        simp [nonempty?_target_eq_none_iff]
      simp [bodyFault, hdirective, ← htarget]
  | rename =>
      simp only [bodyFault, hdirective]
      cases hname : b.newName with
      | none => simp
      | some name => simp [← accepts_iff_isLine]

theorem lacks_of_bodyFault {s : Text} (hpattern : d.pattern = .text s) (hs : IsLine s)
    {fault : PatternFault} (h : bodyFault d.toRuleBody = some fault) : d.Lacks IsLine fault := by
  cases hdirective : d.directive with
  | stripOwner => simp [bodyFault, hdirective] at h
  | keepFunction => simp [bodyFault, hdirective] at h
  | keepMethod =>
      simp only [bodyFault, hdirective] at h
      split at h
      · rename_i htarget
        cases h
        rw [Option.isNone_iff_eq_none] at htarget
        exact .noTarget hpattern hs hdirective (nonempty?_target_eq_none_iff.mp htarget)
      · contradiction
  | rename =>
      have hfault : fault = .badNewName d.newName ∧ ∀ s, d.newName = some s → ¬ accepts s := by
        simp only [bodyFault, hdirective] at h
        cases hname : d.newName with
        | none =>
            rw [hname] at h
            cases h
            simp
        | some name =>
            simp only [hname] at h
            split at h
            · contradiction
            · rename_i haccepts
              cases h
              simpa using haccepts
      obtain ⟨rfl, hname⟩ := hfault
      exact .badNewName hpattern hs hdirective fun name h =>
        accepts_iff_isLine.not.mp (hname name h)

/-- A draft is accepted exactly when it has all that its directive asks for. -/
theorem exists_check_iff : (∃ r, d.check = .ok r) ↔ d.Conforms IsLine := by
  constructor
  · rintro ⟨r, hr⟩
    obtain ⟨rfl, haccepts, hfault⟩ := check_eq_ok_iff.mp hr
    obtain ⟨htarget, hname⟩ := bodyFault_eq_none_iff.mp hfault
    exact ⟨⟨r.pattern, rfl, accepts_iff_isLine.mp haccepts⟩, htarget, hname⟩
  · rintro ⟨⟨s, hpattern, hs⟩, htarget, hname⟩
    refine ⟨⟨d.toRuleBody, s⟩, check_eq_ok_iff.mpr ⟨?_, accepts_iff_isLine.mpr hs, ?_⟩⟩
    · rw [← hpattern]
    · exact bodyFault_eq_none_iff.mpr ⟨htarget, hname⟩

/-- Any other draft is refused for what it lacks, unless its pattern cannot be read. -/
theorem lacks_or_isForeign_of_check {e : Failure} (h : d.check = .error e) :
    (∃ fault, d.Lacks IsLine fault ∧ e = .badPattern d.pattern fault) ∨
      d.IsForeign ∧ e = .kind (.notMatchable (.scalar d.pattern)) := by
  simp only [check] at h
  split at h
  · rename_i hempty
    cases h
    exact .inl ⟨_, .empty (by simpa using hempty), rfl⟩
  · rename_i hholds
    have hholds : d.pattern.holds := by simpa using hholds
    split at h
    · rename_i s hpattern
      have hne : s ≠ [] := by
        rintro rfl
        rw [hpattern] at hholds
        contradiction
      split at h
      · rename_i haccepts
        cases h
        refine .inl ⟨_, .notIdentifier hpattern hne ?_, rfl⟩
        rw [← accepts_iff_isLine]
        simpa using haccepts
      · rename_i haccepts
        have hline : IsLine s := accepts_iff_isLine.mp (by simpa using haccepts)
        split at h
        · rename_i fault hfault
          cases h
          exact .inl ⟨fault, lacks_of_bodyFault hpattern hline hfault, rfl⟩
        · contradiction
    · rename_i hother
      cases h
      exact .inr ⟨⟨hholds, hother⟩, rfl⟩

theorem wellFormed_iff : d.WellFormed ↔ d.Conforms IsLine ∧ ¬ d.HasLineFeed := by
  simp only [HasLineFeed, not_or, not_and, not_exists]
  constructor
  · rintro ⟨⟨s, hpattern, hs⟩, htarget, hname⟩
    obtain ⟨hline, hlast⟩ := isIdentifier_iff_isLine.mp hs
    refine ⟨⟨⟨s, hpattern, hline⟩, htarget, fun h => ?_⟩, fun t ht => ?_, fun h t ht => ?_⟩
    · obtain ⟨name, hsome, hidentifier⟩ := hname h
      exact ⟨name, hsome, (isIdentifier_iff_isLine.mp hidentifier).1⟩
    · cases hpattern.symm.trans ht
      exact hlast
    · obtain ⟨name, hsome, hidentifier⟩ := hname h
      cases hsome.symm.trans ht
      exact (isIdentifier_iff_isLine.mp hidentifier).2
  · rintro ⟨⟨⟨s, hpattern, hline⟩, htarget, hname⟩, hlast, hlastName⟩
    refine ⟨⟨s, hpattern, isIdentifier_iff_isLine.mpr ⟨hline, hlast s hpattern⟩⟩, htarget, ?_⟩
    intro h
    obtain ⟨name, hsome, hline⟩ := hname h
    exact ⟨name, hsome, isIdentifier_iff_isLine.mpr ⟨hline, hlastName h name hsome⟩⟩

end RuleDraft

/-! ### Tables -/

namespace RuleTable

theorem exists_ofDrafts_iff {drafts : List RuleDraft} :
    (∃ t, ofDrafts drafts = .ok t) ↔ ∀ d ∈ drafts, d.Conforms IsLine := by
  simp only [← RuleDraft.exists_check_iff]
  constructor
  · rintro ⟨t, ht⟩ d hd
    obtain ⟨i, hi, rfl⟩ := List.getElem_of_mem hd
    have hall := ofDrafts_eq_ok_iff.mp ht
    have hlength := hall.length_eq
    exact ⟨_, hall.get hi (by omega)⟩
  · intro h
    induction drafts with
    | nil => exact ⟨.empty, rfl⟩
    | cons d rest ih =>
        obtain ⟨hd, hrest⟩ := List.forall_mem_cons.mp h
        obtain ⟨r, hr⟩ := hd
        obtain ⟨t, ht⟩ := ih hrest
        exact ⟨⟨r :: t.rules⟩, ofDrafts_eq_ok_iff.mpr (.cons hr (ofDrafts_eq_ok_iff.mp ht))⟩

/-- Building a table fails as the first draft that is refused does. -/
theorem ofDrafts_append_cons {front back : List RuleDraft} {d : RuleDraft} {e : Failure}
    (hfront : ∀ f ∈ front, ∃ r, f.check = .ok r) (hd : d.check = .error e) :
    ofDrafts (front ++ d :: back) = .error e := by
  have hmap : (front ++ d :: back).mapM RuleDraft.check = .error e := by
    induction front with
    | nil => rw [List.nil_append, List.mapM_cons, hd, error_bind]
    | cons f rest ih =>
        obtain ⟨hf, hrest⟩ := List.forall_mem_cons.mp hfront
        obtain ⟨r, hr⟩ := hf
        rw [List.cons_append, List.mapM_cons, hr, ok_bind, ih hrest, error_bind]
  rw [ofDrafts, hmap, error_bind]

/-- A table accepts drafts exactly when each has all that its directive asks for, where an
identifier with a line feed behind it counts as a name. That is all that keeps an accepted draft
from being well formed. If there is a draft that lacks something, building the table fails with the
pattern of the first such draft and what it lacks, or because the pattern is no text. -/
theorem ofDrafts_accepts_or_refuses (drafts : List RuleDraft) :
    ((∃ t, ofDrafts drafts = .ok t) ↔ ∀ d ∈ drafts, d.Conforms IsLine) ∧
    (∀ d : RuleDraft, d.WellFormed ↔ d.Conforms IsLine ∧ ¬ d.HasLineFeed) ∧
    ((∃ d ∈ drafts, ¬ d.Conforms IsLine) →
      ∃ front d back e, drafts = front ++ d :: back ∧ (∀ f ∈ front, f.Conforms IsLine) ∧
        ¬ d.Conforms IsLine ∧ ofDrafts drafts = .error e ∧
        ((∃ fault, d.Lacks IsLine fault ∧ e = .badPattern d.pattern fault) ∨
          d.IsForeign ∧ e = .kind (.notMatchable (.scalar d.pattern)))) := by
  refine ⟨exists_ofDrafts_iff, fun d => RuleDraft.wellFormed_iff, fun hbad => ?_⟩
  obtain ⟨d, hmem, hbad⟩ := hbad
  classical
  obtain ⟨d, hfind⟩ : ∃ d, drafts.find? (fun d => ¬ d.Conforms IsLine) = some d :=
    Option.isSome_iff_exists.mp (List.find?_isSome.mpr ⟨d, hmem, by simpa using hbad⟩)
  obtain ⟨hd, front, back, rfl, hfront⟩ := List.find?_eq_some_iff_append.mp hfind
  simp only [decide_not, Bool.not_not, decide_eq_true_eq, Bool.not_eq_true',
    decide_eq_false_iff_not] at hd hfront
  cases hcheck : d.check with
  | ok r => exact absurd (RuleDraft.exists_check_iff.mp ⟨r, hcheck⟩) hd
  | error e =>
      refine ⟨front, d, back, e, rfl, hfront, hd, ?_, RuleDraft.lacks_or_isForeign_of_check hcheck⟩
      exact ofDrafts_append_cons (fun f hf => RuleDraft.exists_check_iff.mpr (hfront f hf)) hcheck

/-- A pattern with a line feed behind it is accepted, so that the rule after it is the first one to
be refused. -/
theorem ofDrafts_accepts_or_refuses_lineFeed :
    let feed : RuleDraft := .keepFunction (.text "foo\n") .exact
    let lacking : RuleDraft := .keepMethod (.text "bar") .exact none false
    ¬ feed.WellFormed ∧ (∃ t, ofDrafts [feed] = .ok t) ∧
      ofDrafts [feed, lacking] = .error (.badPattern (.text "bar") .noTarget) := by
  intro feed lacking
  obtain ⟨-, hwellFormed, -⟩ := ofDrafts_accepts_or_refuses [feed]
  have htable : ∃ t, ofDrafts [feed] = .ok t := ⟨_, rfl⟩
  refine ⟨fun h => ?_, htable, rfl⟩
  exact ((hwellFormed feed).mp h).2 (.inl ⟨_, rfl, by decide⟩)

end RuleTable

end BindingNames
