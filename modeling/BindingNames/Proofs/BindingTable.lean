import BindingNames.Proofs.AcceptedRules
import BindingNames.Proofs.Mapping
import BindingNames.Proofs.Placement
import BindingNames.Proofs.TextOrder
import BindingNames.Proofs.TextPieces
import BindingNames.SymbolTable
import Mathlib.Tactic.MkIffOfInductiveProp

/-!
The symbol table of a run. If the names that a header brings along are words, no two entries of the
table have the same binding, in either form of a receiver. Final names are unique in each scope;
what is left is that the text of a binding shows its scope. A function has no dot in its name,
since its name is a word or was accepted as a new name. A method has one behind its owner, which
has neither a dot nor a bracket, so the owner can be read off whatever the method is called.
-/

namespace BindingNames

open Text

/-- The names that matter to one declaration are words, except the name of a member function. -/
@[mk_iff]
structure PlainNames (types : List TypeDecl) (d : FunctionDecl) : Prop where
  types : ∀ t ∈ types, IsWord t.name
  owner : ∀ t ∈ d.candidateOwner, IsWord t.name
  memberOf : ∀ owner ∈ d.memberOf, IsWord owner
  rawName : d.memberOf = none → IsWord d.rawName

instance (types : List TypeDecl) (d : FunctionDecl) : Decidable (PlainNames types d) :=
  decidable_of_iff' _ (plainNames_iff types d)

/-- Whether a name can stand in a scope so that its text shows the scope. -/
def Scope.Admits (name : Text) : Scope → Prop
  | .functions => Code.char '.' ∉ name
  | .methods owner => IsWord owner

theorem not_mem_of_isWord {c : Code} (hc : Identifier.isWordChar c = false) {s : Text}
    (h : IsWord s) : c ∉ s := by
  intro hmem
  rw [h c hmem] at hc
  contradiction

theorem dot_not_mem_of_isWord {s : Text} (h : IsWord s) : Code.char '.' ∉ s :=
  not_mem_of_isWord (by decide) h

theorem dot_not_mem_of_accepts {s : Text} (h : Identifier.accepts s) : Code.char '.' ∉ s := by
  intro hmem
  rcases Identifier.isWordChar_or_lineFeed_of_accepts h hmem with hword | hfeed
  · exact absurd hword (by decide)
  · exact absurd hfeed (by decide)

theorem Scope.Admits.suffixed {scope : Scope} {base : Text} (h : scope.Admits base) (n : Nat) :
    scope.Admits (GivenNames.suffixed base n) := by
  cases scope with
  | methods owner => exact h
  | functions =>
      intro hmem
      simp only [GivenNames.suffixed, List.mem_append] at hmem
      rcases hmem with (hmem | hmem) | hmem
      · exact h hmem
      · exact absurd hmem (by decide)
      · exact dot_not_mem_of_isWord (isWord_ofNat n) hmem

/-! ### Where a resolved symbol stands -/

namespace Resolver

theorem Places.isWord_owner {r : Resolver} {d : FunctionDecl} {p : Placement}
    (h : r.Places d p) (hd : PlainNames r.types d) {owner : Text}
    (hrole : p.role = .method owner) : IsWord owner := by
  rcases h.owner hrole with ⟨t, ht, rfl⟩ | ⟨⟨t, ht, rfl⟩, -⟩
  · exact hd.types t ht
  · exact hd.owner t ht

/-- New names come from rules that the table has accepted. -/
theorem dot_not_mem_newName {r : Resolver} {drafts : List RuleDraft}
    (htable : RuleTable.ofDrafts drafts = .ok r.table) {key name : Text}
    (h : r.newName key = some name) : Code.char '.' ∉ name := by
  obtain ⟨rule, hrule, hname⟩ := Option.bind_eq_some_iff.mp h
  obtain ⟨s, hs, haccepts⟩ := RuleTable.exists_newName htable hrule
  rw [hname] at hs
  cases hs
  exact dot_not_mem_of_accepts haccepts

/-- A name in the scope of functions is the word from the declaration, or a new name. -/
theorem Resolves.admits {r : Resolver} {drafts : List RuleDraft}
    (htable : RuleTable.ofDrafts drafts = .ok r.table) {d : FunctionDecl}
    (hd : PlainNames r.types d) {x : Resolution} (hx : r.Resolves d x) :
    x.symbol.scope.Admits x.symbol.baseName := by
  cases hx with
  | member hmember => exact hd.memberOf _ hmember
  | demoted hmember =>
      -- a method without a receiver stands among the functions under its raw name
      exact dot_not_mem_of_isWord (hd.rawName hmember)
  | @placed p hmember hplaces =>
      cases hscope : ResolvedSymbol.scope _ with
      | methods owner =>
          obtain ⟨hrole, -⟩ := ResolvedSymbol.scope_eq_methods_iff.mp hscope
          exact hplaces.isWord_owner hd hrole
      | functions =>
          cases hnew : r.newName d.rawName with
          | some name => exact dot_not_mem_newName htable hnew
          | none =>
              have hbase := (hd.rawName hmember).of_subset hplaces.base_subset
              refine dot_not_mem_of_isWord ?_
              simp only [ResolvedSymbol.initial, Option.getD_none]
              split
              · exact hbase
              · exact r.style.isWord_apply hbase

end Resolver

/-! ### Reading a scope off a binding -/

namespace SymbolTable

theorem bindingName_functions (pointer : Bool) {s : ResolvedSymbol}
    (h : s.scope = .functions) : bindingName pointer s = s.finalName := by
  simp only [bindingName, h]

theorem bindingName_methods_pointer {s : ResolvedSymbol} {owner : Text}
    (h : s.scope = .methods owner) :
    bindingName true s =
      .char '(' :: .char '*' :: (owner ++ .char ')' :: .char '.' :: s.finalName) := by
  simp [bindingName, h, Text.ofString]

theorem bindingName_methods_value {s : ResolvedSymbol} {owner : Text}
    (h : s.scope = .methods owner) :
    bindingName false s = owner ++ .char '.' :: s.finalName := by
  simp [bindingName, h, Text.ofString]

theorem dot_mem_bindingName_methods (pointer : Bool) {s : ResolvedSymbol} {owner : Text}
    (h : s.scope = .methods owner) : Code.char '.' ∈ bindingName pointer s := by
  cases pointer with
  | true => simp [bindingName_methods_pointer h]
  | false => simp [bindingName_methods_value h]

theorem bindingName_methods_inj (pointer : Bool) {s t : ResolvedSymbol} {owner other : Text}
    (hs : s.scope = .methods owner) (ht : t.scope = .methods other) (howner : IsWord owner)
    (hother : IsWord other) (h : bindingName pointer s = bindingName pointer t) :
    owner = other ∧ s.finalName = t.finalName := by
  cases pointer with
  | true =>
      rw [bindingName_methods_pointer hs, bindingName_methods_pointer ht] at h
      have hbracket : Identifier.isWordChar (.char ')') = false := by decide
      obtain ⟨howners, hrest⟩ := append_separator_inj (not_mem_of_isWord hbracket howner)
        (not_mem_of_isWord hbracket hother) (List.cons.inj (List.cons.inj h).2).2
      exact ⟨howners, (List.cons.inj hrest).2⟩
  | false =>
      rw [bindingName_methods_value hs, bindingName_methods_value ht] at h
      exact append_separator_inj (dot_not_mem_of_isWord howner) (dot_not_mem_of_isWord hother) h

/-- A binding determines the scope and the final name. -/
theorem bindingName_inj (pointer : Bool) {s t : ResolvedSymbol}
    (hs : s.scope.Admits s.finalName) (ht : t.scope.Admits t.finalName)
    (h : bindingName pointer s = bindingName pointer t) :
    s.scope = t.scope ∧ s.finalName = t.finalName := by
  -- only the name of a method has a dot, and two owners end at the same place
  cases hsc : s.scope with
  | functions =>
      rw [hsc] at hs
      cases htc : t.scope with
      | functions =>
          rw [bindingName_functions pointer hsc, bindingName_functions pointer htc] at h
          exact ⟨rfl, h⟩
      | methods other =>
          have hdot := dot_mem_bindingName_methods pointer htc
          rw [← h, bindingName_functions pointer hsc] at hdot
          exact absurd hdot hs
  | methods owner =>
      rw [hsc] at hs
      cases htc : t.scope with
      | functions =>
          rw [htc] at ht
          have hdot := dot_mem_bindingName_methods pointer hsc
          rw [h, bindingName_functions pointer htc] at hdot
          exact absurd hdot ht
      | methods other =>
          rw [htc] at ht
          obtain ⟨rfl, hname⟩ := bindingName_methods_inj pointer hsc htc hs ht h
          exact ⟨rfl, hname⟩

theorem nodup_bindingName (pointer : Bool) {symbols : List ResolvedSymbol}
    (hadmits : ∀ s ∈ symbols, s.scope.Admits s.finalName)
    (hnames : symbols.Pairwise fun s t => s.scope = t.scope → s.finalName ≠ t.finalName) :
    (symbols.map (bindingName pointer)).Nodup := by
  rw [List.Nodup, List.pairwise_map]
  refine hnames.imp_of_mem ?_
  intro s t hs ht hne hbinding
  obtain ⟨hscope, hname⟩ := bindingName_inj pointer (hadmits s hs) (hadmits t ht) hbinding
  exact hne hscope hname

/-! ### Entries in order -/

theorem precedes_trans (a b c : TableEntry) (hab : precedes a b) (hbc : precedes b c) :
    precedes a c :=
  decide_eq_true (List.le_trans (of_decide_eq_true hab) (of_decide_eq_true hbc))

theorem precedes_total (a b : TableEntry) : precedes a b || precedes b a := by
  rw [Bool.or_eq_true, precedes, precedes, decide_eq_true_eq, decide_eq_true_eq]
  exact List.le_total a.mangle b.mangle

theorem binding_build_perm (pointer : Bool) (symbols : List ResolvedSymbol) :
    ((build pointer symbols).map (·.binding)).Perm (symbols.map (bindingName pointer)) := by
  have hperm := (build_perm pointer symbols).map (·.binding)
  rw [List.map_map] at hperm
  exact hperm

theorem mangle_build_perm (pointer : Bool) (symbols : List ResolvedSymbol) :
    ((build pointer symbols).map (·.mangle)).Perm (symbols.map (·.symbolName)) := by
  have hperm := (build_perm pointer symbols).map (·.mangle)
  rw [List.map_map] at hperm
  exact hperm

theorem mangle_build_sorted (pointer : Bool) (symbols : List ResolvedSymbol) :
    ((build pointer symbols).map (·.mangle)).Pairwise (· ≤ ·) := by
  rw [List.pairwise_map]
  have hsorted : (build pointer symbols).Pairwise fun a b => precedes a b :=
    List.pairwise_mergeSort precedes_trans precedes_total _
  exact hsorted.imp fun h => of_decide_eq_true h

/-- The table is in strict order when no two symbols have the same name in the library. -/
theorem mangle_build_pairwise_lt (pointer : Bool) {symbols : List ResolvedSymbol}
    (h : (symbols.map (·.symbolName)).Nodup) :
    ((build pointer symbols).map (·.mangle)).Pairwise (· < ·) :=
  Text.pairwise_lt_of_nodup (mangle_build_sorted pointer symbols)
    ((mangle_build_perm pointer symbols).nodup_iff.mpr h)

end SymbolTable

/-! ### The table of a run -/

theorem GreedyName.admits {earlier : List Text} {base name : Text} {scope : Scope}
    (h : GreedyName earlier base name) (hbase : scope.Admits base) : scope.Admits name := by
  cases h with
  | kept => exact hbase
  | numbered => exact hbase.suffixed _

theorem NamedGreedily.admits {symbols named : List ResolvedSymbol}
    (h : NamedGreedily symbols named) (hbase : ∀ s ∈ symbols, s.scope.Admits s.baseName) :
    ∀ s ∈ named, s.scope.Admits s.finalName := by
  intro s hs
  obtain ⟨i, hn, rfl⟩ := List.mem_iff_getElem.mp hs
  have hi : i < symbols.length := by rwa [← h.length_eq]
  refine (h.greedy i hn).admits ?_
  rw [h.frame i hi hn]
  exact hbase symbols[i] (List.getElem_mem hi)

namespace Mapper

/-- The symbols of a run are those of the kept declarations, with greedy names. -/
theorem symbols_of_result {m : Mapper} (hm : m.InUse) {types : List TypeDecl}
    {ds : List FunctionDecl} {x : Mapped} (hx : (m.resolve types ds).2.result = .ok x) :
    (ds.map (·.symbolName)).Nodup ∧
      x.symbols.map (·.symbolName) = (m.kept ds).map (·.symbolName) ∧
      ∃ (r : Resolver) (drafts : List RuleDraft), r.types = types ∧
        RuleTable.ofDrafts drafts = .ok r.table ∧
        NamedGreedily ((m.kept ds).map fun d => (r.resolve d).symbol) x.symbols := by
  obtain ⟨r, hr, hnodup, rfl⟩ := result_resolve_eq_ok hx
  obtain ⟨drafts, hdrafts⟩ := hm.exists_drafts
  obtain ⟨htypes, htable⟩ := resolver_eq_fields hr
  have hnamed : NamedGreedily ((m.kept ds).map fun d => (r.resolve d).symbol)
      (mappedOf ((m.kept ds).map r.resolve)).symbols := by
    simp only [mappedOf, List.map_map]
    exact namedGreedily_disambiguate _
  refine ⟨hnodup, ?_, r, drafts, htypes, htable ▸ hdrafts, hnamed⟩
  rw [hnamed.map_eq fun _ _ => rfl, List.map_map]
  refine List.map_congr_left fun d _ => ?_
  simp only [Function.comp_apply, ResolvedSymbol.symbolName, Resolver.resolve_decl]

/-- The table of a run has one entry for each declaration that is not ignored, in strict order of
the names in the library, and no two entries have the same binding. -/
theorem build_nodup_binding_and_sorted {m : Mapper} (hm : m.InUse) {types : List TypeDecl}
    {ds : List FunctionDecl} (hplain : ∀ d ∈ ds, PlainNames types d) {x : Mapped}
    (hx : (m.resolve types ds).2.result = .ok x) (pointer : Bool) :
    ((SymbolTable.build pointer x.symbols).map (·.binding)).Nodup ∧
      ((SymbolTable.build pointer x.symbols).map (·.mangle)).Pairwise (· < ·) ∧
      ((SymbolTable.build pointer x.symbols).map (·.mangle)).Perm
        ((ds.filter fun d => !m.rules.ignores d.symbolName).map (·.symbolName)) := by
  obtain ⟨hnodup, hnames, r, drafts, rfl, htable, hnamed⟩ := symbols_of_result hm hx
  have hadmits : ∀ s ∈ x.symbols, s.scope.Admits s.finalName := by
    refine hnamed.admits ?_
    intro s hs
    obtain ⟨d, hd, rfl⟩ := List.mem_map.mp hs
    exact (r.resolves_resolve d).admits htable (hplain d (m.kept_subset ds hd))
  refine ⟨?_, ?_, ?_⟩
  · rw [(SymbolTable.binding_build_perm pointer x.symbols).nodup_iff]
    exact SymbolTable.nodup_bindingName pointer hadmits hnamed.pairwise
  · refine SymbolTable.mangle_build_pairwise_lt pointer ?_
    rw [hnames]
    exact m.nodup_kept hnodup
  · rw [kept] at hnames
    rw [← hnames]
    exact SymbolTable.mangle_build_perm pointer x.symbols

/-- A function is renamed to the name of another one, an owner is inferred, a class has an operator
and a function is ignored. -/
theorem build_nodup_binding_and_sorted_renamed :
    let c : Configuration :=
      { Configuration.unset with
        symMap := [(.text "open", .text "read"), (.text "old", .text "-")]
        trimPrefixes := .list [.text "Foo_"] }
    let foo : TypeDecl := ⟨"Foo", true, none⟩
    let ds : List FunctionDecl :=
      [.ofName "read", .ofName "open", .ofName "old",
        { FunctionDecl.ofName "Foo_read" with candidateOwner := some foo },
        { FunctionDecl.ofName "operator+" with
          mangledName := some "_ZN3FooplEv", memberOf := some "Foo" }]
    ∃ (m : Mapper) (x : Mapped), (start ⟨[], []⟩ c).result = .ok m ∧
      (∀ d ∈ ds, PlainNames [foo] d) ∧ (m.resolve [foo] ds).2.result = .ok x ∧
      ((SymbolTable.build true x.symbols).map (·.binding)).Nodup ∧
      ((SymbolTable.build true x.symbols).map (·.mangle)).Pairwise (· < ·) ∧
      ((SymbolTable.build true x.symbols).map (·.mangle)).Perm
        [ofString "read", "open", "Foo_read", "_ZN3FooplEv"] := by
  intro c foo ds
  have hstart : ∃ m, (start ⟨[], []⟩ c).result = .ok m := ⟨_, rfl⟩
  obtain ⟨m, hm⟩ := hstart
  have hplain : ∀ d ∈ ds, PlainNames [foo] d := by decide
  have hresolve : ∃ x, (m.resolve [foo] ds).2.result = .ok x := by
    cases hm
    exact ⟨_, rfl⟩
  have hignored : (ds.filter fun d => !m.rules.ignores d.symbolName).map (·.symbolName) =
      [ofString "read", "open", "Foo_read", "_ZN3FooplEv"] := by
    cases hm
    decide
  obtain ⟨x, hx⟩ := hresolve
  obtain ⟨hbinding, hsorted, hnames⟩ := build_nodup_binding_and_sorted (.start hm) hplain hx true
  rw [hignored] at hnames
  exact ⟨m, x, hm, hplain, hx, hbinding, hsorted, hnames⟩

end Mapper

end BindingNames
