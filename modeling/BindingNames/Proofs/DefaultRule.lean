import BindingNames.Proofs.NameOrigin
import BindingNames.Proofs.RulePriority

/-!
Rules that say what holds anyway. A function without a rule for its role is a method of its owner,
under the name without the owner. A rule that strips the owner and names no type asks for just that.
So one may put it in anywhere in the table, if the owner is a known type: it is found now, and the
rules that rename are found as before. For an owner that is not known it would make a function of
the method, and a warning.
-/

namespace BindingNames

/-- A rule that strips the owner, whatever type that is. -/
structure RuleBody.StripsOwner (b : RuleBody) : Prop where
  directive : b.directive = .stripOwner
  target : nonempty? b.target = none

namespace RuleTable

variable {front back : List RuleDraft} {draft : RuleDraft} {rule : NamingRule} {t : RuleTable}
  {admits : Directive → Bool} {name : Text}

/-! ### One rule more -/

/-- A draft that is accepted may stand anywhere in a table. -/
theorem exists_ofDrafts_insert (h : ofDrafts (front ++ back) = .ok t)
    (hcheck : draft.check = .ok rule) :
    ∃ before after, t.rules = before ++ after ∧
      ofDrafts (front ++ draft :: back) = .ok ⟨before ++ rule :: after⟩ := by
  have hflip := (ofDrafts_eq_ok_iff.mp h).flip
  have hbefore := (List.forall₂_take_append _ _ _ hflip).flip
  have hafter := (List.forall₂_drop_append _ _ _ hflip).flip
  refine ⟨_, _, (List.take_append_drop front.length t.rules).symm, ?_⟩
  exact ofDrafts_eq_ok_iff.mpr (List.rel_append hbefore (.cons hcheck hafter))

/-- A rule that is put in among rules that do not match is found. -/
theorem lookup_insert {before after : List NamingRule} (hadmits : admits rule.directive)
    (hmatches : rule.Matches name)
    (hnone : ∀ q ∈ before ++ after, admits q.directive → ¬ q.Matches name) :
    (⟨before ++ rule :: after⟩ : RuleTable).lookup admits name = some rule := by
  have hempty : matching admits name (before ++ after) = [] := by
    refine List.filter_eq_nil_iff.mpr fun q hq => ?_
    simpa using hnone q hq
  rw [matching_append, List.append_eq_nil_iff] at hempty
  refine lookup_of_matching ?_
  rw [matching_append, matching_cons_of_matches ⟨hadmits, hmatches⟩, hempty.1, hempty.2,
    List.nil_append]

/-- A rule for a role is nothing to the rules that rename. -/
theorem renameRule_insert {before after : List NamingRule} (hrole : rule.directive.isRole) :
    (⟨before ++ rule :: after⟩ : RuleTable).renameRule name =
      (⟨before ++ after⟩ : RuleTable).renameRule name := by
  have hinserted : Inserted (rule = ·) (before ++ after) (before ++ rule :: after) :=
    (Inserted.insert rfl (.refl _ after)).append_left before
  refine lookup_inserted (t := ⟨before ++ after⟩) (fun q hq hreached => ?_) hinserted
  rw [← hq, hrole] at hreached
  exact Bool.false_ne_true hreached.1

end RuleTable

namespace Resolver

variable {r : Resolver} {d : FunctionDecl} {rule : NamingRule} {t : RuleTable} {owner : Text}

/-! ### One placement -/

/-- The rule places a declaration as no rule does. -/
theorem place_of_stripsOwner (hrule : r.table.roleRule d.rawName = some rule)
    (hstrips : rule.StripsOwner) (howner : r.ownerOf d = some owner) (hknown : r.knows owner) :
    r.place d = strippedMethod d.rawName owner := by
  rw [place_of_stripOwner hrule hstrips.directive hstrips.target, howner,
    Option.filter_eq_some_iff.mpr ⟨rfl, hknown⟩]
  rfl

/-- A declaration that is placed alike and renamed alike has the same resolution. -/
theorem resolve_withTable_of_place_eq (hmember : d.memberOf = none)
    (hplace : (r.withTable t).place d = r.place d)
    (hrename : t.renameRule d.rawName = r.table.renameRule d.rawName) :
    (r.withTable t).resolve d = r.resolve d := by
  simp only [resolve, hmember, resolveFree, newName, hplace, withTable_table, hrename]
  rfl

theorem role_resolve (hmember : d.memberOf = none) :
    (r.resolve d).symbol.role = (r.place d).role := by
  simp only [resolve, hmember, resolveFree]
  split <;> rfl

/-- A declaration that has an owner loses no beginning. -/
theorem resolve?_of_ownerOf (howner : r.ownerOf d = some owner) :
    r.resolve? d = .ok (r.resolve d) := by
  have hfault : r.fault? d = none := by simp [fault?, trims, howner]
  rw [resolve?, hfault]

/-- A rule that strips the owner, whatever type that is, may stand anywhere in the table without any
effect on a function that has a known owner and had no rule for its role. The rule is found, and the
symbol and what is recorded stay the same. -/
theorem stripsOwner_is_default (r : Resolver) (ws : List Warning) {front back : List RuleDraft}
    (htable : RuleTable.ofDrafts (front ++ back) = .ok r.table) {draft : RuleDraft}
    (hstrips : draft.StripsOwner) {rule : NamingRule} (hcheck : draft.check = .ok rule)
    {d : FunctionDecl} (hmember : d.memberOf = none) (hmatches : rule.Matches d.rawName)
    (hnone : ∀ q ∈ r.table.rules, q.directive.isRole → ¬ q.Matches d.rawName) {owner : Text}
    (howner : r.ownerOf d = some owner) (hknown : ∃ t ∈ r.types, t.name = owner) :
    ∃ u, RuleTable.ofDrafts (front ++ draft :: back) = .ok u ∧
      u.roleRule d.rawName = some rule ∧
      let given := ResolverSession.resolve ⟨r, ws⟩ d
      let ruled := ResolverSession.resolve ⟨r.withTable u, ws⟩ d
      ruled.2 = given.2 ∧ ruled.1.warnings = given.1.warnings ∧
        ∃ s, given.2 = .ok s ∧ s.role = .method owner := by
  obtain ⟨before, after, hrules, hu⟩ := RuleTable.exists_ofDrafts_insert htable hcheck
  obtain ⟨rfl, -, -⟩ := RuleDraft.check_eq_ok_iff.mp hcheck
  generalize hinserted : (⟨before ++ rule :: after⟩ : RuleTable) = u at hu
  have hrole : rule.directive.isRole := by
    rw [show rule.directive = .stripOwner from hstrips.directive]
    rfl
  have hfound : u.roleRule d.rawName = some rule := by
    rw [← hinserted]
    exact RuleTable.lookup_insert hrole hmatches (hrules ▸ hnone)
  have hnorule : r.table.roleRule d.rawName = none := RuleTable.lookup_eq_none hnone
  have hrename : u.renameRule d.rawName = r.table.renameRule d.rawName := by
    rw [← hinserted, RuleTable.renameRule_insert hrole, ← hrules]
  -- either way the declaration is a method of its owner, under the name without the owner
  have hplace : (r.withTable u).place d = r.place d := by
    rw [place_of_owned hnorule howner]
    exact place_of_stripsOwner hfound hstrips howner (knows_iff.mpr hknown)
  have hresolve : (r.withTable u).resolve d = r.resolve d :=
    resolve_withTable_of_place_eq hmember hplace hrename
  have hgiven : (ResolverSession.resolve ⟨r, ws⟩ d).2 = .ok (r.resolve d).symbol := by
    rw [ResolverSession.snd_resolve, resolve?_of_ownerOf howner]
    rfl
  have hruled : (ResolverSession.resolve ⟨r.withTable u, ws⟩ d).2 = .ok (r.resolve d).symbol := by
    rw [ResolverSession.snd_resolve, resolve?_of_ownerOf (r := r.withTable u) howner, hresolve]
    rfl
  refine ⟨u, hu, hfound, hruled.trans hgiven.symm, ?_, _, hgiven, ?_⟩
  · simp only [ResolverSession.fst_resolve, hresolve]
  · rw [role_resolve hmember, place_of_owned hnorule howner]
    rfl

/-- A rule with an empty type goes in front of one that renames. The function belongs to the longer
of two types, is a method of it with and without the rule, and gets its new name. -/
theorem stripsOwner_is_default_renamed :
    let front : List RuleDraft := [.keepFunction (.text "Foo_Bar_close") .exact]
    let back : List RuleDraft := [.rename (.text "Foo_Bar_") .leading (some "bar_start")]
    let draft : RuleDraft := .stripOwner (.text "Foo_") .leading (some "")
    let opens : FunctionDecl :=
      { FunctionDecl.ofName "Foo_Bar_open" with parameters := [⟨"struct Foo_Bar *", none, none⟩] }
    ∃ t u, RuleTable.ofDrafts (front ++ back) = .ok t ∧
      RuleTable.ofDrafts (front ++ draft :: back) = .ok u ∧
      let r : Resolver := ⟨[⟨"Foo", true, none⟩, ⟨"Foo_Bar", true, none⟩], t, .none, .camel, true⟩
      ∃ s, (ResolverSession.resolve ⟨r, []⟩ opens).2 = .ok s ∧
        (ResolverSession.resolve ⟨r.withTable u, []⟩ opens).2 = .ok s ∧
        s.role = .method "Foo_Bar" ∧ s.baseName = "bar_start" := by
  intro front back draft opens
  obtain ⟨t, ht⟩ : ∃ t, RuleTable.ofDrafts (front ++ back) = .ok t := ⟨_, rfl⟩
  have hstrips : draft.StripsOwner := ⟨rfl, rfl⟩
  have hcheck : draft.check = .ok ⟨draft.toRuleBody, "Foo_"⟩ := rfl
  have hmember : opens.memberOf = none := rfl
  have hdefault := stripsOwner_is_default
    ⟨[⟨"Foo", true, none⟩, ⟨"Foo_Bar", true, none⟩], t, .none, .camel, true⟩ [] ht hstrips hcheck
    hmember (by decide)
  cases ht
  have hknown : ∃ t ∈ ([⟨"Foo", true, none⟩, ⟨"Foo_Bar", true, none⟩] : List TypeDecl),
      t.name = "Foo_Bar" := by decide
  obtain ⟨u, hu, -, hsame, -, s, hs, hrole⟩ := hdefault (by decide) (by decide) hknown
  refine ⟨_, u, rfl, hu, s, hs, hsame.trans hs, hrole, ?_⟩
  cases hs
  decide

end Resolver

end BindingNames
