import BindingNames.Proofs.AcceptedRules
import BindingNames.Proofs.Placement

/-!
Roles and warnings. A method belongs to the class that declares it, to a known type, or, where no
rule has a say, to the owner that its declaration comes with. A rule that asks for a type that is
not known is the one reason for a warning, and then there is a plain function whose name is that of
the declaration or of a rule, neither trimmed nor styled.
-/

namespace BindingNames

namespace Resolver

/-- A rule for the role of a declaration asks for a type that is not known. A rule that strips the
owner and has no target asks for the owner that the declaration comes with, or else for the inferred
one; there may be none. -/
inductive AsksForUnknown (r : Resolver) (d : FunctionDecl) (rule : NamingRule) :
    Option Text → Prop where
  | keepMethod (hdirective : rule.directive = .keepMethod)
      (hunknown : ∀ t ∈ r.types, rule.target ≠ some t.name) :
      AsksForUnknown r d rule rule.target
  | stripOwner {owner : Option Text} (hdirective : rule.directive = .stripOwner)
      (howner : owner =
        ((nonempty? rule.target).or (d.candidateOwner.map (·.name))).or (r.inferOwner d.rawName))
      (hunknown : ∀ t ∈ r.types, owner ≠ some t.name) :
      AsksForUnknown r d rule owner

/-- The warning that there is about a declaration. -/
inductive Warns (r : Resolver) (d : FunctionDecl) : Warning → Prop where
  | unknown {rule : NamingRule} {target : Option Text} (hmember : d.memberOf = none)
      (hrule : r.table.roleRule d.rawName = some rule)
      (hasks : r.AsksForUnknown d rule target) :
      Warns r d (unknownTargetWarning d.rawName rule target)

/-- The role of a symbol is that of a method where it is emitted as a function in spite of it, and
the owner of a method is accounted for. -/
structure SoundRole (r : Resolver) (d : FunctionDecl) (symbol : ResolvedSymbol) : Prop where
  isMethod_of_emit : symbol.emitAsFunction → symbol.role.isMethod
  owner : ∀ type, symbol.role = .method type →
    d.memberOf = some type ∨
      d.memberOf = none ∧
        ((∃ t ∈ r.types, t.name = type) ∨
          (∃ t, d.candidateOwner = some t ∧ t.name = type) ∧ r.table.roleRule d.rawName = none)
  /-- Among rules that do not keep functions, those that ask for an unknown type make one. -/
  function_iff : d.memberOf = none → ∀ rule, r.table.roleRule d.rawName = some rule →
    rule.directive ≠ .keepFunction → (symbol.role = .function ↔ ∃ w, r.Warns d w)

/-- A plain function under its raw name, unless it is renamed. -/
structure IsFallback (r : Resolver) (d : FunctionDecl) (symbol : ResolvedSymbol) : Prop where
  role : symbol.role = .function
  emit : symbol.emitAsFunction = false
  renamed : ∀ rule, r.table.renameRule d.rawName = some rule →
    rule.newName = some symbol.baseName
  kept : r.table.renameRule d.rawName = none → symbol.baseName = d.rawName

variable {r : Resolver} {d : FunctionDecl}

/-! ### Warnings -/

theorem knows_eq_false_iff {type : Text} :
    r.knows type = false ↔ ∀ t ∈ r.types, t.name ≠ type := by
  simp [knows]

/-- The rule for a role has a directive that is about roles. -/
theorem directive_ne_rename {rule : NamingRule} (h : r.table.roleRule d.rawName = some rule) :
    rule.directive ≠ .rename := by
  intro hdirective
  obtain ⟨-, hrole, -⟩ := RuleTable.lookup_mem h
  rw [hdirective] at hrole
  contradiction

theorem asksForUnknown_iff {rule : NamingRule} (hrename : rule.directive ≠ .rename)
    {target : Option Text} :
    r.AsksForUnknown d rule target ↔
      rule.directive ≠ .keepFunction ∧ target = targetOf (r.ownerOf d) rule ∧
        ∀ type, target = some type → r.knows type = false := by
  have hknows : (∀ type, target = some type → r.knows type = false) ↔
      ∀ t ∈ r.types, target ≠ some t.name := by
    simp only [knows_eq_false_iff]
    exact ⟨fun h t ht htarget => h t.name htarget t ht rfl,
      fun h type htarget t ht hname => h t ht (hname ▸ htarget)⟩
  rw [hknows]
  constructor
  · intro h
    cases h with
    | keepMethod hdirective hunknown =>
        exact ⟨by simp [hdirective], by simp [targetOf, hdirective], hunknown⟩
    | stripOwner hdirective howner hunknown =>
        refine ⟨by simp [hdirective], ?_, hunknown⟩
        -- a rule has its target or else an owner, which is the candidate or else the inferred one
        rw [howner, Option.or_assoc]
        simp [targetOf, hdirective, ownerOf]
  · rintro ⟨hkeep, htarget, hunknown⟩
    cases hdirective : rule.directive with
    | keepFunction => contradiction
    | rename => contradiction
    | keepMethod =>
        have htarget : target = rule.target := by simpa [targetOf, hdirective] using htarget
        rw [htarget] at hunknown ⊢
        exact .keepMethod hdirective hunknown
    | stripOwner =>
        refine .stripOwner hdirective ?_ hunknown
        rw [htarget, Option.or_assoc]
        simp [targetOf, hdirective, ownerOf]

/-- Where there is a warning, the declaration is kept as a function under its own name. -/
theorem Places.eq_keptFunction {p : Placement} (hp : r.Places d p) {w : Warning}
    (hw : r.Warns d w) : p = keptFunction d.rawName (some w) := by
  -- both the placement and the warning come with a rule, which is the one that a lookup finds
  obtain ⟨hmember, hasked, hasks⟩ := hw
  rename_i asking target
  obtain ⟨hkeep, htarget, hunknown⟩ := (asksForUnknown_iff (directive_ne_rename hasked)).mp hasks
  cases hp with
  | owned hrule => rw [hrule] at hasked; contradiction
  | plain hrule => rw [hrule] at hasked; contradiction
  | kept hrule hdirective =>
      cases hrule.symm.trans hasked
      exact absurd hdirective hkeep
  | unknown hrule =>
      cases hrule.symm.trans hasked
      rw [htarget]
  | forced hrule _ _ htype hknown =>
      cases hrule.symm.trans hasked
      rw [hunknown _ (htarget.trans htype)] at hknown
      contradiction
  | ruled hrule _ _ htype hknown =>
      cases hrule.symm.trans hasked
      rw [hunknown _ (htarget.trans htype)] at hknown
      contradiction

theorem Places.warns {p : Placement} (hp : r.Places d p) (hmember : d.memberOf = none)
    {w : Warning} (hw : p.warning = some w) : r.Warns d w := by
  cases hp with
  | unknown hrule hdirective hunknown =>
      cases hw
      exact .unknown hmember hrule
        ((asksForUnknown_iff (directive_ne_rename hrule)).mpr ⟨hdirective, rfl, hunknown⟩)
  | _ => contradiction

theorem Resolves.warning_eq_some_iff {x : Resolution} (hx : r.Resolves d x) {w : Warning} :
    x.warning = some w ↔ r.Warns d w := by
  cases hx with
  | member hmember =>
      refine ⟨fun h => by contradiction, fun hw => ?_⟩
      obtain ⟨hnone, -, -⟩ := hw
      rw [hmember] at hnone
      contradiction
  | demoted hmember hplaces =>
      exact ⟨hplaces.warns hmember, fun hw => by rw [hplaces.eq_keptFunction hw]; rfl⟩
  | placed hmember hplaces =>
      exact ⟨hplaces.warns hmember, fun hw => by rw [hplaces.eq_keptFunction hw]; rfl⟩

/-! ### Roles -/

theorem Places.isMethod_of_emit {p : Placement} (hp : r.Places d p) (h : p.emit) :
    p.role.isMethod := by
  cases hp with
  | forced => rfl
  | _ => contradiction

/-- A rule that does not keep functions makes a method, or leads to a warning. -/
theorem Places.isMethod_or_warning {p : Placement} (hp : r.Places d p) {rule : NamingRule}
    (hrule : r.table.roleRule d.rawName = some rule) (hkeep : rule.directive ≠ .keepFunction) :
    p.role.isMethod ∨ ∃ w, p.warning = some w := by
  cases hp with
  | owned hnone => rw [hnone] at hrule; contradiction
  | plain hnone => rw [hnone] at hrule; contradiction
  | kept hrule' hdirective =>
      cases hrule'.symm.trans hrule
      exact absurd hdirective hkeep
  | unknown => exact .inr ⟨_, rfl⟩
  | forced => exact .inl rfl
  | ruled => exact .inl rfl

theorem Resolves.soundRole {x : Resolution} (hx : r.Resolves d x) : r.SoundRole d x.symbol where
  isMethod_of_emit h := by
    cases hx with
    | member => contradiction
    | demoted => rfl
    | placed _ hplaces => exact hplaces.isMethod_of_emit h
  owner type hrole := by
    cases hx with
    | member hmember =>
        cases hrole
        exact .inl hmember
    | demoted hmember hplaces hmethod =>
        cases hrole
        exact .inr ⟨hmember, hplaces.owner hmethod⟩
    | placed hmember hplaces => exact .inr ⟨hmember, hplaces.owner hrole⟩
  function_iff hnone rule hrule hkeep := by
    simp only [← hx.warning_eq_some_iff]
    cases hx with
    | member hmember => rw [hnone] at hmember; contradiction
    | demoted hmember hplaces hmethod =>
        -- it was placed as a method, and where there is a warning it is not
        refine ⟨fun h => by contradiction, fun ⟨w, hw⟩ => ?_⟩
        rw [hplaces.eq_keptFunction (hplaces.warns hmember hw)] at hmethod
        contradiction
    | @placed p hmember hplaces =>
        constructor
        · intro hrole
          refine (hplaces.isMethod_or_warning hrule hkeep).resolve_left fun hmethod => ?_
          rw [show p.role = .function from hrole] at hmethod
          contradiction
        · rintro ⟨w, hw⟩
          rw [hplaces.eq_keptFunction (hplaces.warns hmember hw)]
          rfl

/-! ### Fallback -/

theorem Resolves.symbol_of_warns {x : Resolution} (hx : r.Resolves d x) {w : Warning}
    (hw : r.Warns d w) :
    x.symbol = .initial d ((r.newName d.rawName).getD d.rawName) .function false := by
  cases hx with
  | member hmember =>
      obtain ⟨hnone, -, -⟩ := hw
      rw [hmember] at hnone
      contradiction
  | demoted hmember hplaces hmethod =>
      rw [hplaces.eq_keptFunction hw] at hmethod
      contradiction
  | placed hmember hplaces =>
      rw [hplaces.eq_keptFunction hw]
      rfl

/-- Nothing is trimmed where a rule asks for an unknown type, so nothing can go wrong with it. -/
theorem fault?_of_warns {w : Warning} (hw : r.Warns d w) : r.fault? d = none := by
  obtain ⟨-, hrule, -⟩ := hw
  simp [fault?, trims, hrule]

theorem isFallback_of_warns {drafts : List RuleDraft}
    (htable : RuleTable.ofDrafts drafts = .ok r.table) {w : Warning} (hw : r.Warns d w) :
    r.IsFallback d (r.resolve d).symbol := by
  rw [(r.resolves_resolve d).symbol_of_warns hw]
  refine ⟨rfl, rfl, fun rule hrule => ?_, fun hnone => ?_⟩
  · obtain ⟨name, hname, -⟩ := RuleTable.exists_newName htable hrule
    simp [ResolvedSymbol.initial, newName, hrule, hname]
  · simp [ResolvedSymbol.initial, newName, hnone]

end Resolver

namespace ResolverSession

/-- A session after a declaration has the warning about it, if there is one, at the end. -/
theorem fst_resolve (s : ResolverSession) (d : FunctionDecl) :
    (s.resolve d).1 =
      { s with warnings := s.warnings ++ (s.resolver.resolve d).warning.toList } := by
  cases hfault : s.resolver.fault? d with
  | none => simp only [resolve, Resolver.resolve?, hfault]
  | some e =>
      have hnone : (s.resolver.resolve d).warning = none := by
        refine Option.eq_none_iff_forall_ne_some.mpr fun w hw => ?_
        have hwarns := (s.resolver.resolves_resolve d).warning_eq_some_iff.mp hw
        rw [Resolver.fault?_of_warns hwarns] at hfault
        contradiction
      simp only [resolve, Resolver.resolve?, hfault, hnone, Option.toList_none, List.append_nil]

theorem snd_resolve (s : ResolverSession) (d : FunctionDecl) :
    (s.resolve d).2 = (s.resolver.resolve? d).map (·.symbol) := by
  simp only [resolve]
  cases s.resolver.resolve? d <;> rfl

/-- The symbol of a declaration has a sound role, and resolving appends a warning exactly where a
rule asks for an unknown type; there the symbol is the fallback. Resolving fails for nothing but a
wrong value among the beginnings to trim. -/
theorem resolve_soundRole_and_warnings (s : ResolverSession) {drafts : List RuleDraft}
    (htable : RuleTable.ofDrafts drafts = .ok s.resolver.table) (d : FunctionDecl) :
    (∃ new : List Warning, (s.resolve d).1 = { s with warnings := s.warnings ++ new } ∧
      new.length ≤ 1 ∧ ∀ w, w ∈ new ↔ s.resolver.Warns d w) ∧
    (s.resolver.trimming.wrong = none → ∃ symbol, (s.resolve d).2 = .ok symbol) ∧
    (∀ symbol, (s.resolve d).2 = .ok symbol → s.resolver.SoundRole d symbol) ∧
    (∀ w, s.resolver.Warns d w →
      ∃ symbol, (s.resolve d).2 = .ok symbol ∧ s.resolver.IsFallback d symbol) := by
  refine ⟨⟨_, s.fst_resolve d, Option.length_toList_le, fun w => ?_⟩, fun hwrong => ?_,
    fun symbol hsymbol => ?_, fun w hw => ?_⟩
  · rw [Option.mem_toList, (s.resolver.resolves_resolve d).warning_eq_some_iff]
  · rw [snd_resolve, Resolver.resolve?_of_wrong_eq_none hwrong]
    exact ⟨_, rfl⟩
  · cases hfault : s.resolver.fault? d with
    | some e =>
        rw [snd_resolve, Resolver.resolve?, hfault] at hsymbol
        contradiction
    | none =>
        rw [snd_resolve, Resolver.resolve?, hfault] at hsymbol
        cases hsymbol
        exact (s.resolver.resolves_resolve d).soundRole
  · rw [snd_resolve, Resolver.resolve?, Resolver.fault?_of_warns hw]
    exact ⟨_, rfl, Resolver.isFallback_of_warns htable hw⟩

/-- A rule strips the owner that the declaration comes with, which is no known type though the
inferred owner is one; the function is renamed, and an older warning stays. -/
theorem resolve_soundRole_and_warnings_renamed :
    let rules : List RuleDraft :=
      [.stripOwner (.text "Foo") .leading none,
        .rename (.text "Foo_open") .exact (some "Foo_start")]
    let d : FunctionDecl :=
      { FunctionDecl.ofName "Foo_open" with candidateOwner := some ⟨"Bar", false, none⟩ }
    let old : Warning := ⟨"kind", "name", "message"⟩
    ∃ t, RuleTable.ofDrafts rules = .ok t ∧
      let s : ResolverSession :=
        ⟨⟨[⟨"Foo", true, none⟩], t, ⟨[.text "Foo_"], none⟩, .camel, true⟩, [old]⟩
      (∃ w, (s.resolve d).1.warnings = [old, w] ∧ s.resolver.Warns d w) ∧
        ∃ symbol, (s.resolve d).2 = .ok symbol ∧ symbol.role = .function ∧
          symbol.baseName = "Foo_start" := by
  intro rules d old
  have htable : ∃ t, RuleTable.ofDrafts rules = .ok t := ⟨_, rfl⟩
  obtain ⟨t, ht⟩ := htable
  refine ⟨t, ht, ?_⟩
  intro s
  obtain ⟨⟨new, hnew, hlength, hmem⟩, -, -, hfallback⟩ := resolve_soundRole_and_warnings s ht d
  cases ht
  have hw : ∃ w, s.resolver.Warns d w :=
    ⟨_, .unknown rfl rfl (.stripOwner rfl rfl (by decide))⟩
  obtain ⟨w, hw⟩ := hw
  obtain ⟨symbol, hsymbol, hrole, -, hrenamed, -⟩ := hfallback w hw
  refine ⟨⟨w, ?_, hw⟩, symbol, hsymbol, hrole, (Option.some.inj (hrenamed _ rfl)).symm⟩
  rw [hnew]
  have hone : new = [w] := by
    match new, hlength, (hmem w).mpr hw with
    | [v], _, h => rw [List.mem_singleton.mp h]
  rw [hone]
  rfl

end ResolverSession

end BindingNames
