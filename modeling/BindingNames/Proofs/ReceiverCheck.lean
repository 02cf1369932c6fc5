import BindingNames.Proofs.ResolvedRoles
import BindingNames.Proofs.Mapping
import BindingNames.Proofs.TextPieces

/-!
What the receiver check changes. A declaration is resolved with the check and without it. The check
looks at the placement, which does not depend on it, and at the first parameter. So both give the
same symbol, unless it is a method that is emitted as one, of a declaration that is no member and
whose first parameter does not mention the owner. With the check on, this symbol is a function
under its raw name. The role and the warning are those of the placement in both cases.
-/

namespace BindingNames

namespace Parameter

/-- The characters that stand between the words of a type. -/
def separates (c : Code) : Bool :=
  Text.isBlank c || c == '*' || c == '&'

/-- The type of a parameter has a text as a word of its own. -/
def Mentions (p : Parameter) (type : Text) : Prop :=
  type ≠ [] ∧ Text.IsPiece separates p.typeName type

/-- Stars and ampersands are exchanged for a blank, and only them. -/
theorem pieces_exchange (cs : Text) :
    Text.pieces Text.isBlank (Text.exchange '&' ' ' (Text.exchange '*' ' ' cs)) =
      Text.pieces separates cs := by
  rw [Text.exchange, Text.exchange, List.map_map]
  refine Text.pieces_map_of_eq (fun c => ?_) (fun c hc => ?_) cs
  · cases hstar : c == '*' with
    | true => rw [eq_of_beq hstar]; rfl
    | false =>
        cases hampersand : c == '&' with
        | true => rw [eq_of_beq hampersand]; rfl
        | false =>
            simp only [Function.comp_apply, separates, hstar, hampersand, Bool.false_eq_true,
              if_false, Bool.or_false]
  · simp only [separates, Bool.or_eq_false_iff, beq_eq_false_iff_ne] at hc
    simp [hc]

theorem namesType_iff {p : Parameter} {type : Text} : p.namesType type ↔ p.Mentions type := by
  rw [namesType, List.contains_iff_mem, typeWords, Text.mem_words_iff, ← Text.mem_pieces_iff,
    pieces_exchange, Text.mem_pieces_iff, Mentions]

end Parameter

namespace Resolver

def withReceiverCheck (r : Resolver) (check : Bool) : Resolver :=
  { r with receiverCheck := check }

/-- The receiver check has nothing to say about a symbol. -/
inductive KeepsPlace (d : FunctionDecl) (symbol : ResolvedSymbol) : Prop where
  | member (hmember : d.isMember)
  | notMethod (hmethod : symbol.emittedAsMethod = false)
  | noParameters (hparameters : d.parameters = [])
  | receiver {owner : Text} {first : Parameter} {rest : List Parameter}
      (hrole : symbol.role = .method owner) (hparameters : d.parameters = first :: rest)
      (hmentions : first.Mentions owner)

/-- The first parameter behind a symbol, if there is one, mentions the owner. -/
def HasReceiver (symbol : ResolvedSymbol) : Prop :=
  ∀ first, symbol.decl.parameters.head? = some first →
    ∃ owner, symbol.role = .method owner ∧ first.Mentions owner

/-- A method that is to be emitted as one has a first parameter that does not mention the owner. -/
inductive Misplaced (d : FunctionDecl) (role : Role) (emit : Bool) : Prop where
  | intro {owner : Text} {first : Parameter} {rest : List Parameter}
      (hrole : role = .method owner) (hemit : emit = false)
      (hparameters : d.parameters = first :: rest) (hmentions : ¬ first.Mentions owner)

variable {r : Resolver} {d : FunctionDecl}

/-! ### What the check looks at -/

theorem lacksReceiver_iff {p : Placement} :
    lacksReceiver d p ↔ Misplaced d p.role p.emit := by
  constructor
  · intro h
    obtain ⟨owner, hrole⟩ := lacksReceiver_eq_true h
    cases hparameters : d.parameters with
    | nil => simp [lacksReceiver, hrole, hparameters] at h
    | cons first rest =>
        simp only [lacksReceiver, hrole, hparameters, Bool.and_eq_true, Bool.not_eq_true'] at h
        refine ⟨hrole, h.1, hparameters, ?_⟩
        rw [← Parameter.namesType_iff, h.2]
        exact Bool.false_ne_true
  · rintro ⟨hrole, hemit, hparameters, hmentions⟩
    rw [← Parameter.namesType_iff] at hmentions
    simp [lacksReceiver, hrole, hemit, hparameters, hmentions]

/-- The check has something to say about a misplaced method of a declaration that is no member. -/
theorem keepsPlace_iff {symbol : ResolvedSymbol} :
    KeepsPlace d symbol ↔
      (d.memberOf = none → ¬ Misplaced d symbol.role symbol.emitAsFunction) := by
  constructor
  · rintro h hnone ⟨hrole, hemit, hparameters, hmentions⟩
    cases h with
    | member hmember => simp [FunctionDecl.isMember, hnone] at hmember
    | notMethod hmethod =>
        simp [ResolvedSymbol.emittedAsMethod, hrole, hemit, Role.isMethod] at hmethod
    | noParameters hnil => simp [hnil] at hparameters
    | receiver hrole' hparameters' hmentions' =>
        cases hrole.symm.trans hrole'
        cases hparameters.symm.trans hparameters'
        exact hmentions hmentions'
  · intro h
    by_cases hmember : d.memberOf = none
    · cases hmethod : symbol.emittedAsMethod with
      | false => exact .notMethod hmethod
      | true =>
          obtain ⟨owner, hscope⟩ := ResolvedSymbol.emittedAsMethod_iff.mp hmethod
          obtain ⟨hrole, hemit⟩ := ResolvedSymbol.scope_eq_methods_iff.mp hscope
          cases hparameters : d.parameters with
          | nil => exact .noParameters hparameters
          | cons first rest =>
              refine .receiver hrole hparameters (Classical.byContradiction fun hmentions => ?_)
              exact h hmember ⟨hrole, hemit, hparameters, hmentions⟩
    · exact .member (Option.isSome_iff_ne_none.mpr hmember)

/-- Without the check, a symbol keeps its place in the eyes of the check exactly where its placement
has a receiver. -/
theorem keepsPlace_resolve_iff :
    KeepsPlace d ((r.withReceiverCheck false).resolve d).symbol ↔
      (d.memberOf = none → lacksReceiver d (r.place d) = false) := by
  rw [keepsPlace_iff]
  refine imp_congr_right fun hmember => ?_
  have hsymbol : ((r.withReceiverCheck false).resolve d).symbol.role = (r.place d).role ∧
      ((r.withReceiverCheck false).resolve d).symbol.emitAsFunction = (r.place d).emit := by
    simp only [resolve, hmember, resolveFree, withReceiverCheck, Bool.false_and]
    exact ⟨rfl, rfl⟩
  rw [hsymbol.1, hsymbol.2, ← lacksReceiver_iff, Bool.not_eq_true]

/-! ### With and without the check -/

/-- The check leaves a symbol alone that keeps its place. -/
theorem resolve_of_keepsPlace
    (h : KeepsPlace d ((r.withReceiverCheck false).resolve d).symbol) :
    (r.withReceiverCheck true).resolve d = (r.withReceiverCheck false).resolve d := by
  rw [keepsPlace_resolve_iff] at h
  cases hmember : d.memberOf with
  | some owner =>
      simp only [resolve, hmember]
      rfl
  | none =>
      have hplace : lacksReceiver d ((r.withReceiverCheck true).place d) = false := h hmember
      simp only [resolve, hmember, resolveFree, hplace, Bool.and_false]
      rfl

/-- The check makes a function under the raw name of a symbol that does not keep its place. -/
theorem resolve_of_not_keepsPlace
    (h : ¬ KeepsPlace d ((r.withReceiverCheck false).resolve d).symbol) :
    (r.withReceiverCheck true).resolve d =
      { symbol :=
          { ((r.withReceiverCheck false).resolve d).symbol with
            baseName := d.rawName, finalName := d.rawName, emitAsFunction := true }
        warning := ((r.withReceiverCheck false).resolve d).warning
        demoted := true } := by
  rw [keepsPlace_resolve_iff, Classical.not_imp, Bool.not_eq_false] at h
  obtain ⟨hmember, hlacks⟩ := h
  have hplace : lacksReceiver d ((r.withReceiverCheck true).place d) = true := hlacks
  simp only [resolve, hmember, resolveFree, hplace]
  rfl

/-- The check changes neither the role nor the warning. -/
theorem role_and_warning_withReceiverCheck :
    ((r.withReceiverCheck true).resolve d).symbol.role =
        ((r.withReceiverCheck false).resolve d).symbol.role ∧
      ((r.withReceiverCheck true).resolve d).warning =
        ((r.withReceiverCheck false).resolve d).warning := by
  by_cases h : KeepsPlace d ((r.withReceiverCheck false).resolve d).symbol
  · rw [resolve_of_keepsPlace h]
    exact ⟨rfl, rfl⟩
  · rw [resolve_of_not_keepsPlace h]
    exact ⟨rfl, rfl⟩

/-- What goes wrong with a declaration does so with the check and without it. -/
theorem resolve?_withReceiverCheck (r : Resolver) (d : FunctionDecl) :
    (r.trimming.wrong ≠ none ∧
        ∃ e, ∀ check, (r.withReceiverCheck check).resolve? d = .error e) ∨
      ∀ check, (r.withReceiverCheck check).resolve? d =
        .ok ((r.withReceiverCheck check).resolve d) := by
  have hfault : ∀ check, (r.withReceiverCheck check).fault? d = r.fault? d := fun check => rfl
  simp only [resolve?, hfault]
  cases h : r.fault? d with
  | none => exact .inr fun check => rfl
  | some e =>
      refine .inl ⟨fun hwrong => ?_, e, fun check => rfl⟩
      have hok := resolve?_of_wrong_eq_none hwrong d
      rw [resolve?, h] at hok
      contradiction

theorem hasReceiver_resolve (hcheck : r.receiverCheck) (hmember : d.memberOf = none)
    (hmethod : (r.resolve d).symbol.emittedAsMethod) : HasReceiver (r.resolve d).symbol := by
  have hr : r = r.withReceiverCheck true := by rw [withReceiverCheck, ← hcheck]
  rw [hr] at hmethod ⊢
  by_cases h : KeepsPlace d ((r.withReceiverCheck false).resolve d).symbol
  · rw [resolve_of_keepsPlace h] at hmethod ⊢
    intro first hfirst
    rw [resolve_decl] at hfirst
    cases h with
    | member h => simp [FunctionDecl.isMember, hmember] at h
    | notMethod h => rw [hmethod] at h; contradiction
    | noParameters h => simp [h] at hfirst
    | receiver hrole hparameters hmentions =>
        rw [hparameters] at hfirst
        cases hfirst
        exact ⟨_, hrole, hmentions⟩
  · rw [resolve_of_not_keepsPlace h] at hmethod
    simp [ResolvedSymbol.emittedAsMethod] at hmethod

/-- Making names unique leaves alone what the check looks at. -/
theorem hasReceiver_of_mem_symbols {m : Mapper} {types : List TypeDecl} {ds : List FunctionDecl}
    {x : Mapped} (hcheck : m.config.receiverCheck.holds)
    (h : (m.resolve types ds).2.result = .ok x) {symbol : ResolvedSymbol}
    (hsymbol : symbol ∈ x.symbols) (hmember : symbol.decl.memberOf = none)
    (hmethod : symbol.emittedAsMethod) : HasReceiver symbol := by
  obtain ⟨r, hr, -, rfl⟩ := Mapper.result_resolve_eq_ok h
  have hcheck : r.receiverCheck := by
    obtain ⟨style, trimming, -, -, rfl⟩ := Mapper.exists_of_resolver_eq_ok hr
    exact hcheck
  obtain ⟨-, hframe⟩ := Mapper.eq_withFinalName_of_mem hsymbol
  rw [hframe] at hmethod ⊢
  exact hasReceiver_resolve hcheck hmember hmethod

/-- A declaration is resolved with the receiver check and without it. Both fail alike, record the
same warnings and give the same role. They give the same symbol where it keeps its place; elsewhere
the check makes a function under the raw name, whatever a rule says about a new one. So, with the
check on, a method of a declaration that is no member has a receiver, also after names are made
unique. -/
theorem receiverCheck_keeps_or_demotes (r : Resolver) (ws : List Warning) (d : FunctionDecl) :
    let off := ResolverSession.resolve ⟨r.withReceiverCheck false, ws⟩ d
    let on := ResolverSession.resolve ⟨r.withReceiverCheck true, ws⟩ d
    on.1.warnings = off.1.warnings ∧
    (r.trimming.wrong = none → ∃ s, off.2 = .ok s) ∧
    (∀ e, off.2 = .error e → on.2 = .error e) ∧
    (∀ s, off.2 = .ok s → ∃ s', on.2 = .ok s' ∧ s'.role = s.role ∧
      (KeepsPlace d s → s' = s) ∧
      (¬ KeepsPlace d s →
        s' = { s with baseName := d.rawName, finalName := d.rawName, emitAsFunction := true })) ∧
    (∀ s', on.2 = .ok s' → s'.decl = d ∧
      (d.memberOf = none → s'.emittedAsMethod → HasReceiver s')) ∧
    (∀ (m : Mapper) (types : List TypeDecl) (ds : List FunctionDecl) (x : Mapped),
      m.config.receiverCheck.holds → (m.resolve types ds).2.result = .ok x →
      ∀ s ∈ x.symbols, s.decl.memberOf = none → s.emittedAsMethod → HasReceiver s) := by
  intro off on
  have hoff : off.2 = ((r.withReceiverCheck false).resolve? d).map (·.symbol) :=
    ResolverSession.snd_resolve _ _
  have hon : on.2 = ((r.withReceiverCheck true).resolve? d).map (·.symbol) :=
    ResolverSession.snd_resolve _ _
  have hwarnings : on.1.warnings = off.1.warnings := by
    simp only [on, off, ResolverSession.fst_resolve, role_and_warning_withReceiverCheck.2]
  have hmapped : ∀ (m : Mapper) (types : List TypeDecl) (ds : List FunctionDecl) (x : Mapped),
      m.config.receiverCheck.holds → (m.resolve types ds).2.result = .ok x →
      ∀ s ∈ x.symbols, s.decl.memberOf = none → s.emittedAsMethod → HasReceiver s :=
    fun m types ds x hcheck hx s hs => hasReceiver_of_mem_symbols hcheck hx hs
  rcases r.resolve?_withReceiverCheck d with ⟨hwrong, e, he⟩ | hok
  · rw [he] at hoff hon
    rw [hoff, hon]
    exact ⟨hwarnings, fun h => absurd h hwrong, fun _ h => h, by simp [Except.map],
      by simp [Except.map], hmapped⟩
  · rw [hok] at hoff hon
    rw [hoff, hon]
    refine ⟨hwarnings, fun _ => ⟨_, rfl⟩, by simp [Except.map], ?_, ?_, hmapped⟩
    · intro s hs
      cases hs
      refine ⟨_, rfl, role_and_warning_withReceiverCheck.1, fun h => ?_, fun h => ?_⟩
      · rw [resolve_of_keepsPlace h]
      · rw [resolve_of_not_keepsPlace h]
    · intro s' hs'
      cases hs'
      exact ⟨resolve_decl _ d, hasReceiver_resolve rfl⟩

/-- A renamed method whose first parameter is of a type with a longer name, and whose second one
mentions the owner. -/
theorem receiverCheck_keeps_or_demotes_renamed :
    let rules : List RuleDraft := [.rename (.text "Foo_open") .exact (some "Start")]
    let d : FunctionDecl :=
      { FunctionDecl.ofName "Foo_open" with
        parameters := [⟨"const FooBar*", none, none⟩, ⟨"const Foo*", none, none⟩] }
    ∃ t, RuleTable.ofDrafts rules = .ok t ∧
      let r : Resolver := ⟨[⟨"Foo", true, none⟩], t, ⟨[], none⟩, .camel, false⟩
      ∃ s s', (ResolverSession.resolve ⟨r.withReceiverCheck false, []⟩ d).2 = .ok s ∧
        (ResolverSession.resolve ⟨r.withReceiverCheck true, []⟩ d).2 = .ok s' ∧
        ¬ KeepsPlace d s ∧ s.emittedAsMethod ∧ s.finalName = "Start" ∧
        s' =
          { s with baseName := "Foo_open", finalName := "Foo_open", emitAsFunction := true } := by
  intro rules d
  obtain ⟨t, ht⟩ : ∃ t, RuleTable.ofDrafts rules = .ok t := ⟨_, rfl⟩
  refine ⟨t, ht, ?_⟩
  cases ht
  intro r
  obtain ⟨-, -, -, hchanges, -, -⟩ := receiverCheck_keeps_or_demotes r [] d
  obtain ⟨s', hs', -, -, hdemoted⟩ := hchanges _ rfl
  have hplace : ¬ KeepsPlace d ((r.withReceiverCheck false).resolve d).symbol := by
    rw [keepsPlace_resolve_iff]
    decide
  exact ⟨_, s', rfl, hs', hplace, rfl, rfl, hdemoted hplace⟩

end Resolver

end BindingNames
