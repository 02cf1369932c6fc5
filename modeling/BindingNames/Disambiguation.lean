import BindingNames.Symbol
import BindingNames.Log

/-!
Final names without collisions. Symbols are taken in order of declaration. The first symbol of a
scope with a base name keeps it if it is still free; a later one gets the base name, two
underscores and a number, counted from the occurrences of the base name and moved on past names
that are taken. The final names of one scope are pairwise different.
-/

namespace BindingNames

/-- The names given out so far: base names in the order they came, and final names. -/
structure GivenNames where
  bases : List (Scope × Text)
  taken : List (Scope × Text)
  deriving Repr, Inhabited

namespace GivenNames

def none : GivenNames := ⟨[], []⟩

/-- How many symbols of the scope came with this base name. -/
def occurrences (g : GivenNames) (scope : Scope) (base : Text) : Nat :=
  g.bases.count (scope, base)

def isTaken (g : GivenNames) (scope : Scope) (name : Text) : Bool :=
  g.taken.contains (scope, name)

def suffixed (base : Text) (index : Nat) : Text :=
  base ++ "__" ++ Text.ofNat index

/-- The first number from `index` on that gives a free name, among as many as the fuel says. -/
def firstFree (g : GivenNames) (scope : Scope) (base : Text) : Nat → Nat → Nat
  | 0, index => index
  | fuel + 1, index =>
    if g.isTaken scope (suffixed base index) then firstFree g scope base fuel (index + 1)
    else index

/-- The name for the next symbol of a scope. There is a free number among the first ones that
outnumber the taken names. -/
def nextName (g : GivenNames) (scope : Scope) (base : Text) : Text :=
  let seen := g.occurrences scope base
  if seen == 0 && !g.isTaken scope base then base
  else suffixed base (g.firstFree scope base (g.taken.length + 1) (max seen 1))

def record (g : GivenNames) (scope : Scope) (base name : Text) : GivenNames :=
  ⟨(scope, base) :: g.bases, (scope, name) :: g.taken⟩

theorem isTaken_record {g : GivenNames} {s t : Scope} {base name other : Text} :
    (g.record s base name).isTaken t other ↔ (t = s ∧ other = name) ∨ g.isTaken t other := by
  simp [isTaken, record]

theorem firstFree_ge (g : GivenNames) (scope : Scope) (base : Text) (fuel index : Nat) :
    index ≤ g.firstFree scope base fuel index := by
  induction fuel generalizing index with
  | zero => simp [firstFree]
  | succ fuel ih =>
    simp only [firstFree]
    split
    · exact Nat.le_trans (Nat.le_succ index) (ih (index + 1))
    · exact Nat.le_refl index

/-- The numbers that a search passes over are taken. -/
theorem isTaken_of_lt_firstFree {g : GivenNames} {scope : Scope} {base : Text}
    {fuel index i : Nat} (hi : index ≤ i) (h : i < g.firstFree scope base fuel index) :
    g.isTaken scope (suffixed base i) := by
  induction fuel generalizing index with
  | zero => exact absurd h (by simp [firstFree]; omega)
  | succ fuel ih =>
    simp only [firstFree] at h
    split at h
    · rename_i ht
      cases Nat.eq_or_lt_of_le hi with
      | inl e => exact e ▸ ht
      | inr hlt => exact ih hlt h
    · omega

end GivenNames

/-- Gives final names to symbols, on top of the names already given. -/
def disambiguateAfter (g : GivenNames) : List ResolvedSymbol → List ResolvedSymbol
  | [] => []
  | s :: rest =>
    let name := g.nextName s.scope s.baseName
    s.withFinalName name :: disambiguateAfter (g.record s.scope s.baseName name) rest

/-- The symbols with final names that are unique in each scope. -/
def disambiguate (symbols : List ResolvedSymbol) : List ResolvedSymbol :=
  disambiguateAfter .none symbols

@[simp] theorem disambiguateAfter_length (g : GivenNames) (symbols : List ResolvedSymbol) :
    (disambiguateAfter g symbols).length = symbols.length := by
  induction symbols generalizing g with
  | nil => rfl
  | cons s rest ih => simp [disambiguateAfter, ih]

@[simp] theorem disambiguate_length (symbols : List ResolvedSymbol) :
    (disambiguate symbols).length = symbols.length := by
  simp [disambiguate]

/-- Names given to a front part do not depend on what follows it. -/
theorem disambiguateAfter_append (g : GivenNames) (xs ys : List ResolvedSymbol) :
    ∃ g', disambiguateAfter g (xs ++ ys) = disambiguateAfter g xs ++ disambiguateAfter g' ys := by
  induction xs generalizing g with
  | nil => exact ⟨g, rfl⟩
  | cons x xs ih =>
    obtain ⟨g', h⟩ := ih (g.record x.scope x.baseName (g.nextName x.scope x.baseName))
    exact ⟨g', by simp [disambiguateAfter, h]⟩

/-- The entries about the symbols whose names had to change. -/
def renamedEntries (symbols : List ResolvedSymbol) : List Entry :=
  (symbols.filter (·.isSuffixed)).map fun s =>
    ⟨"symmap.resolver.disambiguator", Level.debug,
      "Renamed " ++ s.rawName ++ ": " ++ s.baseName ++ " -> " ++ s.finalName⟩

end BindingNames
