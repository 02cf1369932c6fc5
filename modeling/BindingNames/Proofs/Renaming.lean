import BindingNames.Proofs.NameOrigin
import BindingNames.Proofs.RulePriority

/-!
What rules that rename change. They are looked up apart from the rules for roles, in the same table,
so without them the same rule for its role is found for every declaration. It is placed as before,
the same warning is recorded, and the receiver check says the same. The base name alone may be
another one: it is the new name, unless the receiver check has its say. No style and no beginning to
trim touches a new name.
-/

namespace BindingNames

def RuleTable.withoutRenames (t : RuleTable) : RuleTable :=
  ⟨t.rules.filter fun r => r.directive ≠ .rename⟩

namespace RuleTable

/-! ### Tables without rules that rename -/

/-- The rules may as well be left out before they are checked. -/
theorem ofDrafts_filter_rename {drafts : List RuleDraft} {t : RuleTable}
    (h : ofDrafts drafts = .ok t) :
    ofDrafts (drafts.filter fun d => d.directive ≠ .rename) = .ok t.withoutRenames := by
  rw [ofDrafts_eq_ok_iff] at h ⊢
  refine List.rel_filter ?_ h
  intro d r hcheck
  rw [(RuleDraft.check_eq_ok_iff.mp hcheck).1]

@[simp] theorem roleRule_withoutRenames (t : RuleTable) (name : Text) :
    t.withoutRenames.roleRule name = t.roleRule name := by
  have hinserted := Inserted.of_filter (fun r : NamingRule => r.directive ≠ .rename) t.rules
  refine (lookup_inserted (fun r hr hreached => ?_) hinserted).symm
  rw [not_not.mp hr] at hreached
  exact Bool.false_ne_true hreached.1

@[simp] theorem renameRule_withoutRenames (t : RuleTable) (name : Text) :
    t.withoutRenames.renameRule name = none := by
  refine lookup_eq_none fun r hr hrenames => ?_
  have hdirective : r.directive ≠ .rename := by simpa using (List.mem_filter.mp hr).2
  cases hr : r.directive with
  | rename => exact absurd hr hdirective
  | _ => simp [hr, Directive.isRole] at hrenames

end RuleTable

namespace Resolver

variable {r : Resolver} {d : FunctionDecl}

/-! ### Declarations without rules that rename -/

theorem place_withoutRenames (r : Resolver) (d : FunctionDecl) :
    (r.withTable r.table.withoutRenames).place d = r.place d := by
  simp only [place, withTable_table, RuleTable.roleRule_withoutRenames]
  rfl

theorem fault?_withoutRenames (r : Resolver) (d : FunctionDecl) :
    (r.withTable r.table.withoutRenames).fault? d = r.fault? d := by
  simp only [fault?, trims, withTable_table, RuleTable.roleRule_withoutRenames]
  rfl

theorem placesAlike_withoutRenames (r : Resolver) (d : FunctionDecl) :
    PlacesAlike (r.withTable r.table.withoutRenames) r d := by
  refine ⟨rfl, ?_, ?_, ?_⟩ <;> rw [place_withoutRenames]

theorem derivedName_withoutRenames (r : Resolver) (d : FunctionDecl) :
    (r.withTable r.table.withoutRenames).derivedName d = r.derivedName d := by
  simp only [derivedName, place_withoutRenames]
  rfl

/-! ### New names -/

/-- The new name of a rule is the base name, unless the receiver check has its say. -/
theorem newName_of_not_demotes {drafts : List RuleDraft}
    (htable : RuleTable.ofDrafts drafts = .ok r.table) {rule : NamingRule}
    (hrule : r.table.renameRule (ruleKey d) = some rule) (h : ¬ r.Demotes d) :
    rule.newName = some (r.resolve d).symbol.baseName := by
  obtain ⟨name, hname, -⟩ := RuleTable.exists_newName htable hrule
  have hfound : r.newName (ruleKey d) = some name := by simp [newName, hrule, hname]
  rw [hname, baseName_of_not_demotes h, hfound, Option.getD_some]

/-- What is renamed is the same under every style, with any beginnings to trim. -/
theorem symbol_withNaming_of_renamed {drafts : List RuleDraft}
    (htable : RuleTable.ofDrafts drafts = .ok r.table) {rule : NamingRule}
    (hrule : r.table.renameRule (ruleKey d) = some rule) (style : NameStyle) (trimming : Trimming) :
    ((r.withNaming style trimming).resolve d).symbol = (r.resolve d).symbol := by
  obtain ⟨name, hname, -⟩ := RuleTable.exists_newName htable hrule
  have hfound : r.newName (ruleKey d) = some name := by simp [newName, hrule, hname]
  have hfound' : (r.withNaming style trimming).newName (ruleKey d) = some name := hfound
  refine (r.placesAlike_withNaming style trimming d).symbol_eq_of_name_eq (.inr ?_)
  rw [hfound, hfound', Option.getD_some, Option.getD_some]

/-- Where there is no new name, or the receiver check has its say, the rules that rename might as
well not be there. -/
theorem symbol_withoutRenames (h : r.table.renameRule (ruleKey d) = none ∨ r.Demotes d) :
    (r.resolve d).symbol = ((r.withTable r.table.withoutRenames).resolve d).symbol := by
  have halike := r.placesAlike_withoutRenames d
  refine halike.symbol_eq_of_name_eq ?_
  rcases h with hnone | hdemotes
  · right
    rw [derivedName_withoutRenames]
    simp only [newName, withTable_table, RuleTable.renameRule_withoutRenames, hnone]
  · exact .inl (halike.demotes_iff.mp hdemotes)

/-- Rules that rename change the base name of a declaration and nothing else. What is recorded and
what goes wrong is the same as without them. The base name is the new name of the rule that is found
under the key of the declaration, whatever the style and the beginnings to trim are; this includes
functions that a rule keeps, forced ones and those with an unknown target. If there is no such rule,
or the receiver check makes a function of the declaration, the symbol is the same too. -/
theorem renaming_changes_names_only (r : Resolver) (ws : List Warning) {drafts : List RuleDraft}
    (htable : RuleTable.ofDrafts drafts = .ok r.table) (d : FunctionDecl) :
    let given := ResolverSession.resolve ⟨r, ws⟩ d
    let plain := ResolverSession.resolve ⟨r.withTable r.table.withoutRenames, ws⟩ d
    RuleTable.ofDrafts (drafts.filter fun d => d.directive ≠ .rename) =
        .ok r.table.withoutRenames ∧
    given.1.warnings = plain.1.warnings ∧
    (r.trimming.wrong = none → ∃ s, given.2 = .ok s) ∧
    (∀ e, given.2 = .error e ↔ plain.2 = .error e) ∧
    ∀ s, given.2 = .ok s → ∃ s₀, plain.2 = .ok s₀ ∧
      s = s₀.withBaseName s.baseName ∧
      (∀ rule, r.table.renameRule (ruleKey d) = some rule → r.KeepsName d ∨ ¬ r.Demotes d →
        rule.newName = some s.baseName ∧
          ∀ style trimming s', (ResolverSession.resolve ⟨r.withNaming style trimming, ws⟩ d).2 =
            .ok s' → s'.baseName = s.baseName) ∧
      (r.table.renameRule (ruleKey d) = none ∨ r.Demotes d → s = s₀) := by
  intro given plain
  have halike := r.placesAlike_withoutRenames d
  have hfault := r.fault?_withoutRenames d
  refine ⟨RuleTable.ofDrafts_filter_rename htable, ?_, fun hwrong => ?_, fun e => ?_,
    fun s hs => ?_⟩
  · simp only [given, plain, ResolverSession.fst_resolve, halike.warning_eq]
  · simp only [given, ResolverSession.snd_resolve, resolve?_of_wrong_eq_none hwrong]
    exact ⟨_, rfl⟩
  · rw [ResolverSession.snd_resolve_eq_error_iff, ResolverSession.snd_resolve_eq_error_iff, hfault]
  · obtain ⟨hnone, rfl⟩ := ResolverSession.snd_resolve_eq_ok_iff.mp hs
    have hplain : plain.2 = .ok ((r.withTable r.table.withoutRenames).resolve d).symbol :=
      ResolverSession.snd_resolve_eq_ok_iff.mpr ⟨hfault.trans hnone, rfl⟩
    refine ⟨_, hplain, halike.symbol_eq, fun rule hrule hplace => ?_, symbol_withoutRenames⟩
    have hstays : ¬ r.Demotes d := hplace.elim KeepsName.not_demotes id
    refine ⟨newName_of_not_demotes htable hrule hstays, fun style trimming s' hs' => ?_⟩
    obtain ⟨-, rfl⟩ := ResolverSession.snd_resolve_eq_ok_iff.mp hs'
    rw [symbol_withNaming_of_renamed htable hrule]

/-- One rule renames a forced method and a method without a receiver. The first one gets the new
name, which is not styled, and the second one its raw name, as if there were no such rule. -/
theorem renaming_changes_names_only_forced :
    let rules : List RuleDraft :=
      [.keepMethod (.text "Foo_open") .exact (some "Foo") true,
        .rename (.text "Foo_") .leading (some "foo_start")]
    let forced : FunctionDecl := .ofName "Foo_open"
    let lacking : FunctionDecl :=
      { FunctionDecl.ofName "Foo_read" with parameters := [⟨"int", none, none⟩] }
    ∃ t, RuleTable.ofDrafts rules = .ok t ∧
      let r : Resolver := ⟨[⟨"Foo", true, none⟩], t, .none, .camel, true⟩
      r.KeepsName forced ∧ r.Demotes lacking ∧
        (∃ s, (ResolverSession.resolve ⟨r, []⟩ forced).2 = .ok s ∧
          s.role = .method "Foo" ∧ s.emitAsFunction ∧ s.baseName = "foo_start") ∧
        ∃ s, (ResolverSession.resolve ⟨r, []⟩ lacking).2 = .ok s ∧ s.baseName = "Foo_read" ∧
          (ResolverSession.resolve ⟨r.withTable t.withoutRenames, []⟩ lacking).2 = .ok s := by
  intro rules forced lacking
  obtain ⟨t, ht⟩ : ∃ t, RuleTable.ofDrafts rules = .ok t := ⟨_, rfl⟩
  refine ⟨t, ht, ?_⟩
  intro r
  obtain ⟨-, -, -, -, hforced⟩ := renaming_changes_names_only r [] ht forced
  obtain ⟨-, -, -, -, hlacking⟩ := renaming_changes_names_only r [] ht lacking
  cases ht
  have hkeeps : r.KeepsName forced := .forced rfl rfl rfl rfl
  have hdemotes : r.Demotes lacking := demotes_iff.mpr ⟨rfl, rfl, by decide⟩
  obtain ⟨-, -, -, hrenamed, -⟩ := hforced _ rfl
  obtain ⟨s₀, hplain, -, -, hsame⟩ := hlacking _ rfl
  refine ⟨hkeeps, hdemotes, ⟨_, rfl, rfl, rfl, ?_⟩, _, rfl, rfl, ?_⟩
  · exact (Option.some.inj (hrenamed _ rfl (.inl hkeeps)).1).symm
  · rw [hplain, hsame (.inr hdemotes)]

end Resolver

end BindingNames
