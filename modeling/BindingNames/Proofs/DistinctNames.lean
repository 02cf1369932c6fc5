import BindingNames.Proofs.Mapping
import BindingNames.Proofs.ResolvedRoles

/-!
Names that need no number. Where rules do no more than keep functions and strip owners, and nothing
else changes names, the raw name of a function can be read off its scope and its base name: it is
the base name among the functions, and has the owner in front among the methods of an owner. So
different raw names never meet in a scope, and each symbol keeps its base name.
-/

namespace BindingNames

/-- A scope with a base name that tells the raw name. -/
structure ResolvedSymbol.Spells (s : ResolvedSymbol) : Prop where
  functions : s.scope = .functions → s.baseName = s.rawName
  methods : ∀ owner, s.scope = .methods owner →
    s.baseName ≠ [] ∧ s.rawName = owner ++ "_" ++ s.baseName

/-- A resolver that changes names in no way but to strip the owners of methods, which no rule
names. -/
structure Resolver.OnlyStrips (r : Resolver) : Prop where
  style : r.style = .none
  trimming : r.trimming = .none
  rules : ∀ rule ∈ r.table.rules,
    rule.directive = .keepFunction ∨
      rule.directive = .stripOwner ∧ nonempty? rule.target = none

/-! ### Different base names -/

theorem ResolvedSymbol.Spells.rawName_eq {s t : ResolvedSymbol} (hs : s.Spells) (ht : t.Spells)
    (hscope : s.scope = t.scope) (hbase : s.baseName = t.baseName) : s.rawName = t.rawName := by
  cases h : s.scope with
  | functions => rw [← hs.functions h, ← ht.functions (hscope ▸ h), hbase]
  | methods owner =>
      rw [(hs.methods owner h).2, (ht.methods owner (hscope ▸ h)).2, hbase]

/-- Symbols whose base names differ in each scope are named already. -/
theorem disambiguate_eq_self {symbols : List ResolvedSymbol}
    (hfinal : ∀ s ∈ symbols, s.finalName = s.baseName)
    (hbases : symbols.Pairwise fun s t => s.scope = t.scope → s.baseName ≠ t.baseName) :
    disambiguate symbols = symbols := by
  refine (namedGreedily_disambiguate symbols).unique ⟨rfl, fun i _ _ => rfl, fun i hi => ?_⟩
  rw [hfinal _ (List.getElem_mem hi)]
  refine .kept fun hmem => ?_
  -- an earlier symbol of the scope would have the same base name
  simp only [namesIn, List.mem_map, List.mem_filter, decide_eq_true_eq] at hmem
  obtain ⟨s, ⟨hs, hscope⟩, hname⟩ := hmem
  obtain ⟨j, hj, rfl⟩ := List.mem_take_iff_getElem.mp hs
  have hji : j < i := by omega
  rw [hfinal _ (List.getElem_mem _)] at hname
  exact List.pairwise_iff_getElem.mp hbases j i (by omega) hi hji hscope hname

/-- Different raw names that can be read off lead to different base names in each scope. -/
theorem disambiguate_eq_self_of_spells {symbols : List ResolvedSymbol}
    (hfinal : ∀ s ∈ symbols, s.finalName = s.baseName) (hspells : ∀ s ∈ symbols, s.Spells)
    (hraw : (symbols.map (·.rawName)).Nodup) : disambiguate symbols = symbols := by
  refine disambiguate_eq_self hfinal ?_
  rw [List.Nodup, List.pairwise_map] at hraw
  refine hraw.imp_of_mem fun hs ht hne hscope hbase => ?_
  exact hne ((hspells _ hs).rawName_eq (hspells _ ht) hscope hbase)

/-! ### Raw names -/

namespace Resolver

variable {r : Resolver} {d : FunctionDecl}

theorem stripOwner_of_belongsTo {name owner : Text} (h : belongsTo name owner) :
    stripOwner name owner ≠ [] ∧ name = owner ++ "_" ++ stripOwner name owner := by
  obtain ⟨hlength, hbegins⟩ := Bool.and_eq_true_iff.mp h
  rw [stripOwner, if_pos h]
  refine ⟨?_, (Text.append_drop_of_beginsWith hbegins).symm⟩
  rw [← List.length_pos_iff, List.length_drop]
  have hlonger : (ownerBeginning owner).length < name.length := of_decide_eq_true hlength
  omega

theorem OnlyStrips.newName_eq_none (h : r.OnlyStrips) (key : Text) : r.newName key = none := by
  cases hrule : r.table.renameRule key with
  | none => rw [newName, hrule]; rfl
  | some rule =>
      obtain ⟨hmem, hadmits, -⟩ := RuleTable.lookup_mem hrule
      rcases h.rules rule hmem with hdirective | ⟨hdirective, -⟩ <;>
        · rw [hdirective] at hadmits
          contradiction

/-- A placement as a method is under the inferred owner, and any other keeps the raw name. -/
theorem OnlyStrips.places (h : r.OnlyStrips) (hcandidate : d.candidateOwner = none)
    {p : Placement} (hp : r.Places d p) :
    (p.role = .function ∧ p.base = d.rawName) ∨
      ∃ owner, belongsTo d.rawName owner ∧ p = strippedMethod d.rawName owner := by
  have howner : r.ownerOf d = r.inferOwner d.rawName := by simp [ownerOf, hcandidate]
  cases hp with
  | owned _ hsome =>
      obtain ⟨-, -, -, hbelongs⟩ := inferOwner_eq_some (howner ▸ hsome)
      exact .inr ⟨_, hbelongs, rfl⟩
  | plain =>
      refine .inl ⟨rfl, ?_⟩
      simp [trim, h.trimming]
  | kept => exact .inl ⟨rfl, rfl⟩
  | unknown => exact .inl ⟨rfl, rfl⟩
  | forced hrule hdirective =>
      rcases h.rules _ (RuleTable.lookup_mem hrule).1 with hkeep | ⟨hstrip, -⟩
      · rw [hkeep] at hdirective; contradiction
      · rw [hstrip] at hdirective; contradiction
  | ruled hrule hdirective _ htarget =>
      rcases h.rules _ (RuleTable.lookup_mem hrule).1 with hkeep | ⟨hstrip, hnone⟩
      · exact absurd hkeep hdirective
      · rw [targetOf, hstrip, hnone, Option.none_or, howner] at htarget
        obtain ⟨-, -, -, hbelongs⟩ := inferOwner_eq_some htarget
        exact .inr ⟨_, hbelongs, rfl⟩

theorem OnlyStrips.spells (h : r.OnlyStrips) (hmember : d.memberOf = none)
    (hcandidate : d.candidateOwner = none) {x : Resolution} (hx : r.Resolves d x) :
    x.symbol.Spells := by
  cases hx with
  | member hsome => rw [hmember] at hsome; contradiction
  -- a method without a receiver goes back among the functions, under its raw name
  | demoted => exact ⟨fun _ => rfl, fun owner hscope => by contradiction⟩
  | @placed p _ hplaces =>
      have hbase : (if p.verbatim then p.base else r.style.apply p.base) = p.base := by
        simp [h.style]
      rw [h.newName_eq_none, Option.getD_none, hbase]
      rcases h.places hcandidate hplaces with ⟨hrole, hraw⟩ | ⟨owner, hbelongs, rfl⟩
      · rw [hrole, hraw]
        exact ⟨fun _ => rfl, fun owner hscope => by contradiction⟩
      · refine ⟨fun hscope => by contradiction, fun other hscope => ?_⟩
        cases hscope
        exact stripOwner_of_belongsTo hbelongs

end Resolver

/-! ### A batch -/

/-- Functions with different raw names get names without numbers, whatever types and receivers there
are. A function keeps its raw name, and a method has what is left of it behind the owner. -/
theorem disambiguate_resolveAll_eq_self (s : ResolverSession) (hr : s.resolver.OnlyStrips)
    {ds : List FunctionDecl} (hfree : ∀ d ∈ ds, d.memberOf = none ∧ d.candidateOwner = none)
    (hraw : (ds.map (·.rawName)).Nodup) (hsymbols : (ds.map (·.symbolName)).Nodup) :
    ∃ symbols, (s.resolveAll ds).2 = .ok symbols ∧ symbols.map (·.decl) = ds ∧
      disambiguate symbols = symbols ∧
      ∀ symbol ∈ disambiguate symbols, symbol.finalName = symbol.baseName ∧
        (symbol.scope = .functions → symbol.finalName = symbol.rawName) ∧
        ∀ owner, symbol.scope = .methods owner →
          symbol.finalName ≠ [] ∧ symbol.rawName = owner ++ "_" ++ symbol.finalName := by
  have hwrong : s.resolver.trimming.wrong = none := by rw [hr.trimming]; rfl
  have hdecls : (ds.map fun d => (s.resolver.resolve d).symbol).map (·.decl) = ds := by
    rw [List.map_map]
    exact List.map_id'' s.resolver.resolve_decl ds
  have hspells : ∀ symbol ∈ ds.map fun d => (s.resolver.resolve d).symbol, symbol.Spells := by
    intro symbol hmem
    obtain ⟨d, hd, rfl⟩ := List.mem_map.mp hmem
    exact hr.spells (hfree d hd).1 (hfree d hd).2 (s.resolver.resolves_resolve d)
  have hfinal : ∀ symbol ∈ ds.map fun d => (s.resolver.resolve d).symbol,
      symbol.finalName = symbol.baseName := by
    intro symbol hmem
    obtain ⟨d, -, rfl⟩ := List.mem_map.mp hmem
    exact s.resolver.resolve_finalName d
  have hnames := congrArg (List.map (·.rawName)) hdecls
  rw [List.map_map] at hnames
  have hself := disambiguate_eq_self_of_spells hfinal hspells (hnames ▸ hraw)
  refine ⟨_, ?_, hdecls, hself, ?_⟩
  · rw [ResolverSession.resolveAll_of_nodup s hsymbols, Resolver.batch_of_wrong_eq_none hwrong]
    exact congrArg Except.ok (List.map_map ..)
  · rw [hself]
    intro symbol hmem
    rw [hfinal symbol hmem]
    exact ⟨rfl, (hspells symbol hmem).functions, (hspells symbol hmem).methods⟩

/-- One type is the beginning of another, and the same name is left for methods of both and for a
function. There is a method without a receiver, a function that is kept, and one that has no
owner. -/
theorem disambiguate_resolveAll_eq_self_nested :
    let strips (pattern : Text) : NamingRule :=
      ⟨⟨.stripOwner, .leading, none, none, false⟩, pattern⟩
    let keeps (pattern : Text) : NamingRule :=
      ⟨⟨.keepFunction, .exact, none, none, false⟩, pattern⟩
    let takes (type name : Text) : FunctionDecl :=
      { FunctionDecl.ofName name with parameters := [⟨type, none, none⟩] }
    let s : ResolverSession :=
      ⟨⟨[⟨"Foo", true, none⟩, ⟨"Foo_Bar", true, none⟩],
        ⟨[strips "Foo_", keeps "Foo_close", strips "lib_"]⟩, .none, .none, true⟩, []⟩
    let ds : List FunctionDecl :=
      [takes "Foo_Bar *" "Foo_Bar_open", .ofName "Foo_open", takes "int" "Foo_read",
        .ofName "Foo_close", .ofName "lib_open", .ofName "open"]
    s.resolver.OnlyStrips ∧ (∀ d ∈ ds, d.memberOf = none ∧ d.candidateOwner = none) ∧
      (ds.map (·.rawName)).Nodup ∧ (ds.map (·.symbolName)).Nodup ∧
      ∃ symbols, (s.resolveAll ds).2 = .ok symbols ∧ disambiguate symbols = symbols ∧
        symbols.map (·.finalName) =
          [Text.ofString "open", "open", "Foo_read", "Foo_close", "lib_open", "open"] := by
  intro strips keeps takes s ds
  have hr : s.resolver.OnlyStrips := ⟨rfl, rfl, by decide⟩
  have hfree : ∀ d ∈ ds, d.memberOf = none ∧ d.candidateOwner = none := by decide
  have hraw : (ds.map (·.rawName)).Nodup := by decide
  have hsymbols : (ds.map (·.symbolName)).Nodup := by decide
  obtain ⟨symbols, hresolve, -, hself, -⟩ :=
    disambiguate_resolveAll_eq_self s hr hfree hraw hsymbols
  have hnames : (s.resolveAll ds).2.map (fun symbols => symbols.map (·.finalName)) =
      .ok [Text.ofString "open", "open", "Foo_read", "Foo_close", "lib_open", "open"] := rfl
  rw [hresolve] at hnames
  exact ⟨hr, hfree, hraw, hsymbols, symbols, hresolve, hself, Except.ok.inj hnames⟩

end BindingNames
