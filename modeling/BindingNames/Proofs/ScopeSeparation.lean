import BindingNames.Proofs.GreedyNaming

/-!
Scopes that do not interfere. All scopes share one record of the names given so far, but the name of
a symbol depends on the names of its own scope alone. So naming the symbols of one scope among all
others gives what naming them alone gives: a step for a symbol of the scope is the same step in both
runs, and a step for any other symbol changes no name of the scope. For the same reason it does not
matter how symbols of different scopes are mixed. Where symbols change places, each gets the name
that it had, as long as those of one scope come in the same order as before.
-/

namespace BindingNames

open GivenNames

def symbolsIn (scope : Scope) (symbols : List ResolvedSymbol) : List ResolvedSymbol :=
  symbols.filter fun s => s.scope = scope

/-- Symbols have changed places, and those of one scope come in the same order as before. The symbol
that now stands at `i` stood at `place i`. -/
structure Rearranges (symbols rearranged : List ResolvedSymbol)
    (place : Fin rearranged.length ≃ Fin symbols.length) : Prop where
  symbol_eq : ∀ i : Fin rearranged.length, rearranged[i] = symbols[place i]
  order : ∀ i j : Fin rearranged.length, rearranged[i].scope = rearranged[j].scope →
    i < j → place i < place j

/-! ### Which earlier names count -/

/-- The greedy name does not depend on the order of the earlier names, nor on repetitions. -/
theorem GreedyName.congr {earlier earlier' : List Text} {base name : Text}
    (hsame : ∀ other, other ∈ earlier' ↔ other ∈ earlier) (h : GreedyName earlier base name) :
    GreedyName earlier' base name := by
  cases h with
  | kept free => exact .kept fun hmem => free ((hsame base).mp hmem)
  | numbered taken least =>
      refine .numbered ((hsame base).mpr taken) ?_
      simpa only [hsame] using least

theorem GivenNames.Tracks.nextName_eq {g g' : GivenNames} {named named' : List ResolvedSymbol}
    (hg : g.Tracks named) (hg' : g'.Tracks named') {scope : Scope}
    (hsame : ∀ name, name ∈ namesIn scope named' ↔ name ∈ namesIn scope named) (base : Text) :
    g'.nextName scope base = g.nextName scope base := by
  have hgreedy : GreedyName (namesIn scope named) base (g.nextName scope base) :=
    hg.nextName_greedy scope base
  have hgreedy' : GreedyName (namesIn scope named') base (g'.nextName scope base) :=
    hg'.nextName_greedy scope base
  exact hgreedy'.unique (hgreedy.congr hsame)

/-! ### One scope among others -/

theorem symbolsIn_cons_self (s : ResolvedSymbol) (rest : List ResolvedSymbol) :
    symbolsIn s.scope (s :: rest) = s :: symbolsIn s.scope rest := by
  simp [symbolsIn]

theorem symbolsIn_cons_of_ne {scope : Scope} {s : ResolvedSymbol} (h : s.scope ≠ scope)
    (rest : List ResolvedSymbol) : symbolsIn scope (s :: rest) = symbolsIn scope rest := by
  simp [symbolsIn, h]

/-- Two runs that agree on the names of a scope go on to name its symbols alike, though one of them
names those of other scopes in between. -/
theorem symbolsIn_disambiguateAfter {g g' : GivenNames} {named named' : List ResolvedSymbol}
    (hg : g.Tracks named) (hg' : g'.Tracks named') {scope : Scope}
    (hsame : ∀ name, name ∈ namesIn scope named' ↔ name ∈ namesIn scope named)
    (symbols : List ResolvedSymbol) :
    symbolsIn scope (disambiguateAfter g symbols) =
      disambiguateAfter g' (symbolsIn scope symbols) := by
  induction symbols generalizing g g' named named' with
  | nil => rfl
  | cons s rest ih =>
      by_cases hscope : s.scope = scope
      · subst hscope
        have hname : g'.nextName s.scope s.baseName = g.nextName s.scope s.baseName :=
          hg.nextName_eq hg' hsame s.baseName
        have hrest := ih (hg.record s) (hg'.record s) fun name => by
          rw [mem_namesIn_append, mem_namesIn_append, hsame, hname]
        rw [symbolsIn_cons_self, disambiguateAfter, disambiguateAfter, ← hrest, hname]
        exact symbolsIn_cons_self (s.withFinalName _) _
      · -- the run over the scope alone stays where it is
        have hrest := ih (hg.record s) hg' fun name => by
          rw [mem_namesIn_append, hsame]
          simp [Ne.symm hscope]
        have hnamed : (s.withFinalName (g.nextName s.scope s.baseName)).scope ≠ scope := hscope
        rw [symbolsIn_cons_of_ne hscope, disambiguateAfter, symbolsIn_cons_of_ne hnamed, hrest]

/-! ### Symbols in other places -/

theorem mem_namesIn_take {scope : Scope} {named : List ResolvedSymbol} {i : Nat} {name : Text} :
    name ∈ namesIn scope (named.take i) ↔
      ∃ j, ∃ hj : j < named.length, j < i ∧ named[j].scope = scope ∧ named[j].finalName = name := by
  simp only [namesIn, List.mem_map, List.mem_filter, decide_eq_true_eq, List.mem_take_iff_getElem]
  constructor
  · rintro ⟨s, ⟨⟨j, hj, rfl⟩, hscope⟩, hname⟩
    exact ⟨j, by omega, by omega, hscope, hname⟩
  · rintro ⟨j, hj, hji, hscope, hname⟩
    exact ⟨named[j], ⟨⟨j, by omega, rfl⟩, hscope⟩, hname⟩

namespace Rearranges

variable {symbols rearranged : List ResolvedSymbol}
  {place : Fin rearranged.length ≃ Fin symbols.length}

/-- The order inside each scope can be told before symbols change places and after it. -/
theorem place_lt_iff (h : Rearranges symbols rearranged place) {i j : Fin rearranged.length}
    (hscope : rearranged[i].scope = rearranged[j].scope) : place i < place j ↔ i < j := by
  refine ⟨fun hplace => ?_, h.order i j hscope⟩
  rcases Nat.lt_trichotomy i j with hlt | heq | hgt
  · exact hlt
  · rw [Fin.ext heq] at hplace
    exact absurd hplace (Nat.lt_irrefl _)
  · exact absurd hplace (Nat.lt_asymm (h.order j i hscope.symm hgt))

/-- A symbol with the name that it had is the one that is now at its place, named. -/
theorem disambiguate_place (h : Rearranges symbols rearranged place) (i : Fin rearranged.length) :
    (disambiguate symbols)[place i] =
      rearranged[i].withFinalName (disambiguate symbols)[place i].finalName := by
  rw [h.symbol_eq i]
  exact (namedGreedily_disambiguate symbols).frame (place i) _ _

theorem scope_place (h : Rearranges symbols rearranged place) (i : Fin rearranged.length) :
    (disambiguate symbols)[place i].scope = rearranged[i].scope := by
  rw [h.disambiguate_place i]
  rfl

/-- The names that come before a symbol in its scope are the same in both places. -/
theorem mem_namesIn_iff (h : Rearranges symbols rearranged place) (i : Fin rearranged.length)
    (name : Text) :
    name ∈ namesIn rearranged[i].scope
        ((List.ofFn fun i => (disambiguate symbols)[place i]).take i) ↔
      name ∈ namesIn rearranged[i].scope ((disambiguate symbols).take (place i)) := by
  rw [mem_namesIn_take, mem_namesIn_take]
  constructor
  · rintro ⟨j, hj, hji, hscope, hname⟩
    rw [List.getElem_ofFn] at hscope hname
    have hj : j < rearranged.length := by simpa using hj
    have hplace : place ⟨j, hj⟩ < place i :=
      (h.place_lt_iff ((h.scope_place ⟨j, hj⟩).symm.trans hscope)).mpr hji
    exact ⟨place ⟨j, hj⟩, _, hplace, hscope, hname⟩
  · rintro ⟨k, hk, hki, hscope, hname⟩
    obtain ⟨j, hj⟩ := place.surjective ⟨k, by simpa using hk⟩
    obtain rfl : place j = k := congrArg Fin.val hj
    have hji : j < i := (h.place_lt_iff ((h.scope_place j).symm.trans hscope)).mp hki
    refine ⟨j, by simp, hji, ?_⟩
    rw [List.getElem_ofFn]
    exact ⟨hscope, hname⟩

/-- The symbols in their new places are named greedily with the names that they had. -/
theorem namedGreedily (h : Rearranges symbols rearranged place) :
    NamedGreedily rearranged (List.ofFn fun i => (disambiguate symbols)[place i]) := by
  refine ⟨List.length_ofFn, fun i hi hn => ?_, fun i hn => ?_⟩
  · rw [List.getElem_ofFn]
    exact h.disambiguate_place ⟨i, hi⟩
  · have hi : i < rearranged.length := by simpa using hn
    have hgreedy := (namedGreedily_disambiguate symbols).greedy (place ⟨i, hi⟩) (by simp)
    rw [List.getElem_ofFn]
    refine hgreedy.congr fun name => ?_
    have hscope := h.scope_place ⟨i, hi⟩
    simp only [Fin.getElem_fin] at hscope ⊢
    rw [hscope]
    exact h.mem_namesIn_iff ⟨i, hi⟩ name

end Rearranges

/-- Naming symbols does the same for each scope as if there were no other. So symbols may change
places, each with the name that it had, as long as those of one scope come in the same order. -/
theorem disambiguate_separates_scopes (symbols : List ResolvedSymbol) :
    (∀ scope, symbolsIn scope (disambiguate symbols) =
      disambiguate (symbolsIn scope symbols)) ∧
    ∀ (rearranged : List ResolvedSymbol) (place : Fin rearranged.length ≃ Fin symbols.length),
      Rearranges symbols rearranged place → ∀ i : Fin rearranged.length,
        (disambiguate rearranged)[i] = (disambiguate symbols)[place i] := by
  constructor
  · intro scope
    exact symbolsIn_disambiguateAfter tracks_none tracks_none (fun name => Iff.rfl) symbols
  · intro rearranged place h i
    have hnamed : disambiguate rearranged = List.ofFn fun i => (disambiguate symbols)[place i] :=
      (namedGreedily_disambiguate rearranged).unique h.namedGreedily
    simp only [hnamed, Fin.getElem_fin, List.getElem_ofFn]

/-- A method that is emitted as a function is among the functions, one of which has the name that it
would have got. The methods of a type change places with them. -/
theorem disambiguate_separates_scopes_mixed :
    let function (name : Text) : ResolvedSymbol := .initial (.ofName name) name .function false
    let method (emit : Bool) (name : Text) : ResolvedSymbol :=
      .initial (.ofName name) name (.method "Foo") emit
    let symbols : List ResolvedSymbol :=
      [function "a", method false "a", function "a__1", method false "a", method true "a"]
    let rearranged : List ResolvedSymbol :=
      [method false "a", function "a", function "a__1", method true "a", method false "a"]
    let place : Fin 5 ≃ Fin 5 := (Equiv.swap 0 1).trans (Equiv.swap 3 4)
    Rearranges symbols rearranged place ∧
      (disambiguate symbols).map (·.finalName) =
        [Text.ofString "a", "a", "a__1", "a__1", "a__2"] ∧
      ∀ i : Fin 5, (disambiguate rearranged)[i] = (disambiguate symbols)[place i] := by
  intro function method symbols rearranged place
  have h : Rearranges symbols rearranged place := ⟨by decide, by decide⟩
  refine ⟨h, by cbv, ?_⟩
  exact (disambiguate_separates_scopes symbols).2 rearranged place h

end BindingNames
