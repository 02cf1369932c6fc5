import BindingNames.Disambiguation
import Mathlib.Data.List.Nodup
import Mathlib.Data.List.Perm.Subperm
import Mathlib.Order.Bounds.Basic

/-!
Final names as a greedy choice. Naming a symbol looks at a counter of the occurrences of its base
name and searches for a free number from there. The counter only saves time: it never passes over
a free number, so the name of a symbol is its base name if no earlier symbol of its scope got that,
and otherwise the base name with the least free number. This determines the names, and it bounds
the number by the count of earlier symbols of the scope.

The invariant behind it is `Tracks`. Once a base name has come, it is taken, whether by its first
symbol or by the generated name of another base name that displaced it; and after `n` more
occurrences its first `n` numbers are taken.
-/

namespace BindingNames

/-- The final names that the symbols of one scope have got, in order. -/
def namesIn (scope : Scope) (named : List ResolvedSymbol) : List Text :=
  (named.filter fun s => s.scope = scope).map (·.finalName)

/-- The name for a base name after the earlier names of its scope. -/
inductive GreedyName (earlier : List Text) (base : Text) : Text → Prop where
  | kept (free : base ∉ earlier) : GreedyName earlier base base
  | numbered {n : Nat} (taken : base ∈ earlier)
      (least : IsLeast {i | 1 ≤ i ∧ GivenNames.suffixed base i ∉ earlier} n) :
      GreedyName earlier base (GivenNames.suffixed base n)

/-- A list of symbols that differs from another in final names only, which are chosen greedily. -/
structure NamedGreedily (symbols named : List ResolvedSymbol) : Prop where
  length_eq : named.length = symbols.length
  /-- Nothing but the final name of a symbol changes. -/
  frame : ∀ i (hs : i < symbols.length) (hn : i < named.length),
    named[i] = symbols[i].withFinalName named[i].finalName
  /-- Each final name is the greedy one after those before it in its scope. -/
  greedy : ∀ i (hn : i < named.length),
    GreedyName (namesIn named[i].scope (named.take i)) named[i].baseName named[i].finalName

/-! ### Numbers behind a base name -/

theorem Text.ofNat_injective : Function.Injective Text.ofNat := by
  have hdigits : Function.Injective (Nat.toDigits 10) :=
    Function.LeftInverse.injective (g := fun cs => Nat.ofDigitChars 10 cs 0)
      fun _ => Nat.ofDigitChars_ten_toDigits
  have hcodes : Function.Injective (List.map Code.char) :=
    List.map_injective_iff.mpr fun _ _ => Code.char.inj
  exact hcodes.comp hdigits

namespace GivenNames

theorem suffixed_injective (base : Text) : Function.Injective (suffixed base) := by
  intro m n h
  exact Text.ofNat_injective (List.append_cancel_left h)

theorem suffixed_ne_self (base : Text) (n : Nat) : suffixed base n ≠ base := by
  intro h
  have hlength := congrArg List.length h
  simp [suffixed, Text.ofString] at hlength

/-- Different values of a function that all occur in a list are no more than the list has
members. -/
theorem le_length_of_forall_mem {α : Type} {f : Nat → α} {l : List α} {k : Nat}
    (hf : Function.Injective f) (h : ∀ i < k, f i ∈ l) : k ≤ l.length := by
  have hnodup : ((List.range k).map f).Nodup := List.nodup_range.map hf
  have hsubset : (List.range k).map f ⊆ l := by
    intro a ha
    obtain ⟨i, hi, rfl⟩ := List.mem_map.mp ha
    exact h i (List.mem_range.mp hi)
  have hlength := (hnodup.subperm hsubset).length_le
  rwa [List.length_map, List.length_range] at hlength

/-- The base name at zero, and the numbered ones after it. -/
def candidate (base : Text) : Nat → Text
  | 0 => base
  | n + 1 => suffixed base (n + 1)

theorem candidate_injective (base : Text) : Function.Injective (candidate base) := by
  intro m n h
  cases m with
  | zero =>
      cases n with
      | zero => rfl
      | succ n => exact absurd h.symm (suffixed_ne_self base (n + 1))
  | succ m =>
      cases n with
      | zero => exact absurd h (suffixed_ne_self base (m + 1))
      | succ n => exact suffixed_injective base h

/-! ### The search for a free number -/

/-- The search from a number ends at another: those in between are taken and the last is free. -/
inductive SearchEnds (g : GivenNames) (scope : Scope) (base : Text) : Nat → Nat → Prop where
  | free {n : Nat} (h : ¬ g.isTaken scope (suffixed base n)) : SearchEnds g scope base n n
  | taken {n m : Nat} (h : g.isTaken scope (suffixed base n))
      (rest : SearchEnds g scope base (n + 1) m) : SearchEnds g scope base n m

theorem SearchEnds.of_taken_between {g : GivenNames} {scope : Scope} {base : Text} {n m : Nat}
    (hnm : n ≤ m) (htaken : ∀ i, n ≤ i → i < m → g.isTaken scope (suffixed base i))
    (hfree : ¬ g.isTaken scope (suffixed base m)) : SearchEnds g scope base n m := by
  -- backwards from the free number
  induction hnm using Nat.decreasingInduction with
  | self => exact .free hfree
  | of_succ k hk ih =>
      refine .taken (htaken k (Nat.le_refl k) hk) (ih fun i hi him => ?_)
      exact htaken i (by omega) him

/-- A search that runs out of fuel has seen only taken numbers. -/
theorem isTaken_of_firstFree_taken {g : GivenNames} {scope : Scope} {base : Text}
    {fuel index : Nat}
    (h : g.isTaken scope (suffixed base (g.firstFree scope base fuel index))) :
    ∀ i < fuel, g.isTaken scope (suffixed base (index + i)) := by
  induction fuel generalizing index with
  | zero =>
      intro i hi
      exact absurd hi (Nat.not_lt_zero i)
  | succ fuel ih =>
      simp only [firstFree] at h
      split at h
      · rename_i hindex
        intro i hi
        cases i with
        | zero => exact hindex
        | succ i =>
            rw [Nat.add_succ, ← Nat.succ_add]
            exact ih h i (by omega)
      · contradiction

/-- The names outnumber the fuel of a search that finds nothing, so a search with more fuel than
there are names finds a free number. -/
theorem not_isTaken_firstFree (g : GivenNames) (scope : Scope) (base : Text) (index : Nat) :
    ¬ g.isTaken scope
      (suffixed base (g.firstFree scope base (g.taken.length + 1) index)) := by
  intro h
  have hall := isTaken_of_firstFree_taken h
  have hinj : Function.Injective fun i => (scope, suffixed base (index + i)) := by
    intro i j hij
    have := suffixed_injective base (Prod.mk.inj hij).2
    omega
  have hle : g.taken.length + 1 ≤ g.taken.length :=
    le_length_of_forall_mem hinj fun i hi => List.contains_iff_mem.mp (hall i hi)
  omega

theorem searchEnds_firstFree (g : GivenNames) (scope : Scope) (base : Text) (index : Nat) :
    SearchEnds g scope base index (g.firstFree scope base (g.taken.length + 1) index) :=
  .of_taken_between (firstFree_ge g scope base _ index)
    (fun _ hi => isTaken_of_lt_firstFree hi) (not_isTaken_firstFree g scope base index)

/-! ### What the counter knows -/

/-- The given names are those of the symbols named so far, and the counter of a base name passes
over taken names only. -/
structure Tracks (g : GivenNames) (named : List ResolvedSymbol) : Prop where
  taken_iff : ∀ scope name, g.isTaken scope name ↔ name ∈ namesIn scope named
  /-- A base name that has come is taken. -/
  base_taken : ∀ scope base, 0 < g.occurrences scope base → g.isTaken scope base
  /-- The numbers below the count of a base name are taken. -/
  numbers_taken : ∀ scope base n, 1 ≤ n → n < g.occurrences scope base →
    g.isTaken scope (suffixed base n)

theorem tracks_none : Tracks .none [] where
  taken_iff scope name := by simp [isTaken, GivenNames.none, namesIn]
  base_taken scope base h := by simp [occurrences, GivenNames.none] at h
  numbers_taken scope base n _ h := by simp [occurrences, GivenNames.none] at h

theorem nextName_of_free {g : GivenNames} {named : List ResolvedSymbol} (hg : g.Tracks named)
    {scope : Scope} {base : Text} (hfree : ¬ g.isTaken scope base) :
    g.nextName scope base = base := by
  have hseen : g.occurrences scope base = 0 := by
    by_contra hpos
    exact hfree (hg.base_taken scope base (Nat.pos_of_ne_zero hpos))
  simp [nextName, hseen, hfree]

theorem nextName_of_taken {g : GivenNames} {scope : Scope} {base : Text}
    (htaken : g.isTaken scope base) :
    g.nextName scope base = suffixed base
      (g.firstFree scope base (g.taken.length + 1) (max (g.occurrences scope base) 1)) := by
  simp [nextName, htaken]

/-- The search starts at the counter, and yet it finds the least free number. -/
theorem isLeast_firstFree {g : GivenNames} {named : List ResolvedSymbol} (hg : g.Tracks named)
    (scope : Scope) (base : Text) :
    IsLeast {i | 1 ≤ i ∧ suffixed base i ∉ namesIn scope named}
      (g.firstFree scope base (g.taken.length + 1) (max (g.occurrences scope base) 1)) := by
  have hge := firstFree_ge g scope base (g.taken.length + 1)
    (max (g.occurrences scope base) 1)
  refine ⟨⟨by omega, ?_⟩, ?_⟩
  · rw [← hg.taken_iff]
    exact not_isTaken_firstFree g scope base _
  · rintro i ⟨hi, hfree⟩
    rw [← hg.taken_iff] at hfree
    by_contra hlt
    -- a smaller number lies below the counter or was passed over by the search
    rcases Nat.lt_or_ge i (max (g.occurrences scope base) 1) with hcount | hcount
    · exact hfree (hg.numbers_taken scope base i hi (by omega))
    · exact hfree (isTaken_of_lt_firstFree hcount (Nat.lt_of_not_le hlt))

theorem Tracks.nextName_greedy {g : GivenNames} {named : List ResolvedSymbol}
    (hg : g.Tracks named) (scope : Scope) (base : Text) :
    GreedyName (namesIn scope named) base (g.nextName scope base) := by
  by_cases htaken : g.isTaken scope base
  · rw [nextName_of_taken htaken]
    exact .numbered ((hg.taken_iff scope base).mp htaken) (isLeast_firstFree hg scope base)
  · rw [nextName_of_free hg htaken]
    exact .kept fun hmem => htaken ((hg.taken_iff scope base).mpr hmem)

theorem isTaken_record_of_isTaken {g : GivenNames} {scope t : Scope} {base name other : Text}
    (h : g.isTaken t other) : (g.record scope base name).isTaken t other :=
  isTaken_record.mpr (.inr h)

theorem isTaken_record_self (g : GivenNames) (scope : Scope) (base name : Text) :
    (g.record scope base name).isTaken scope name :=
  isTaken_record.mpr (.inl ⟨rfl, rfl⟩)

theorem occurrences_record_self (g : GivenNames) (scope : Scope) (base name : Text) :
    (g.record scope base name).occurrences scope base = g.occurrences scope base + 1 := by
  simp [occurrences, record]

theorem occurrences_record_of_ne {g : GivenNames} {scope t : Scope} {base other : Text}
    (name : Text) (h : (t, other) ≠ (scope, base)) :
    (g.record scope base name).occurrences t other = g.occurrences t other := by
  simp only [occurrences, record]
  exact List.count_cons_of_ne h.symm

/-- After a symbol is named, its base name is taken, if not by itself then by what displaced it. -/
theorem isTaken_record_base {g : GivenNames} {named : List ResolvedSymbol} (hg : g.Tracks named)
    (scope : Scope) (base : Text) :
    (g.record scope base (g.nextName scope base)).isTaken scope base := by
  by_cases htaken : g.isTaken scope base
  · exact isTaken_record_of_isTaken htaken
  · rw [nextName_of_free hg htaken]
    exact isTaken_record_self g scope base base

/-- After a symbol is named, the number at its counter is taken: the search has passed it over or
has stopped there. -/
theorem isTaken_record_counter {g : GivenNames} {named : List ResolvedSymbol}
    (hg : g.Tracks named) (scope : Scope) (base : Text) (h : 0 < g.occurrences scope base) :
    (g.record scope base (g.nextName scope base)).isTaken scope
      (suffixed base (g.occurrences scope base)) := by
  have hstart : max (g.occurrences scope base) 1 = g.occurrences scope base := by omega
  have hge := firstFree_ge g scope base (g.taken.length + 1) (g.occurrences scope base)
  rw [nextName_of_taken (hg.base_taken scope base h), hstart]
  rcases Nat.eq_or_lt_of_le hge with heq | hlt
  · rw [← heq]
    exact isTaken_record_self g scope base _
  · exact isTaken_record_of_isTaken (isTaken_of_lt_firstFree (Nat.le_refl _) hlt)

theorem mem_namesIn_append {scope : Scope} {named : List ResolvedSymbol} {s : ResolvedSymbol}
    {name : Text} :
    name ∈ namesIn scope (named ++ [s]) ↔
      (scope = s.scope ∧ name = s.finalName) ∨ name ∈ namesIn scope named := by
  by_cases h : s.scope = scope
  · simp [namesIn, h, or_comm]
  · simp [namesIn, h, Ne.symm h]

/-- One step of naming keeps the invariant. -/
theorem Tracks.record {g : GivenNames} {named : List ResolvedSymbol} (hg : g.Tracks named)
    (s : ResolvedSymbol) :
    (g.record s.scope s.baseName (g.nextName s.scope s.baseName)).Tracks
      (named ++ [s.withFinalName (g.nextName s.scope s.baseName)]) where
  taken_iff scope name := by
    rw [isTaken_record, mem_namesIn_append, hg.taken_iff]
    rfl
  base_taken scope base h := by
    by_cases hself : (scope, base) = (s.scope, s.baseName)
    · obtain ⟨rfl, rfl⟩ := Prod.mk.inj hself
      exact isTaken_record_base hg s.scope s.baseName
    · rw [occurrences_record_of_ne _ hself] at h
      exact isTaken_record_of_isTaken (hg.base_taken scope base h)
  numbers_taken scope base n hn h := by
    by_cases hself : (scope, base) = (s.scope, s.baseName)
    · obtain ⟨rfl, rfl⟩ := Prod.mk.inj hself
      rw [occurrences_record_self] at h
      rcases Nat.lt_succ_iff_lt_or_eq.mp h with hlt | rfl
      · exact isTaken_record_of_isTaken (hg.numbers_taken _ _ n hn hlt)
      · exact isTaken_record_counter hg s.scope s.baseName hn
    · rw [occurrences_record_of_ne _ hself] at h
      exact isTaken_record_of_isTaken (hg.numbers_taken scope base n hn h)

end GivenNames

/-! ### The run over a list of symbols -/

theorem getElem_disambiguateAfter (g : GivenNames) (symbols : List ResolvedSymbol) (i : Nat)
    (hs : i < symbols.length) (hn : i < (disambiguateAfter g symbols).length) :
    (disambiguateAfter g symbols)[i] =
      symbols[i].withFinalName (disambiguateAfter g symbols)[i].finalName := by
  induction symbols generalizing g i with
  | nil => exact absurd hs (Nat.not_lt_zero i)
  | cons s rest ih =>
      cases i with
      | zero => rfl
      | succ i =>
          exact ih _ i (by simpa using hs) (by simpa using hs)

theorem disambiguateAfter_greedy {g : GivenNames} {named : List ResolvedSymbol}
    (hg : g.Tracks named) (symbols : List ResolvedSymbol) (i : Nat)
    (hn : i < (disambiguateAfter g symbols).length) :
    GreedyName
      (namesIn (disambiguateAfter g symbols)[i].scope
        (named ++ (disambiguateAfter g symbols).take i))
      (disambiguateAfter g symbols)[i].baseName (disambiguateAfter g symbols)[i].finalName := by
  -- each step moves one symbol to those that are named, and the invariant goes with it
  induction symbols generalizing g named i with
  | nil => exact absurd hn (Nat.not_lt_zero i)
  | cons s rest ih =>
      cases i with
      | zero =>
          rw [List.take_zero, List.append_nil]
          exact hg.nextName_greedy s.scope s.baseName
      | succ i =>
          have hrest := ih (hg.record s) i (by simpa [disambiguateAfter] using hn)
          rw [List.append_assoc] at hrest
          exact hrest

/-! ### The greedy names as a specification -/

theorem GreedyName.not_mem {earlier : List Text} {base name : Text}
    (h : GreedyName earlier base name) : name ∉ earlier := by
  cases h with
  | kept free => exact free
  | numbered taken least => exact least.1.2

theorem GreedyName.unique {earlier : List Text} {base name other : Text}
    (h : GreedyName earlier base name) (h' : GreedyName earlier base other) : name = other := by
  cases h with
  | kept free =>
      cases h' with
      | kept _ => rfl
      | numbered taken _ => exact absurd taken free
  | numbered taken least =>
      cases h' with
      | kept free => exact absurd taken free
      | numbered _ least' => rw [least.unique least']

/-- The base name and the numbers below the chosen one are different earlier names. -/
theorem GreedyName.exists_le_length {earlier : List Text} {base name : Text}
    (h : GreedyName earlier base name) (hne : name ≠ base) :
    ∃ n, 1 ≤ n ∧ n ≤ earlier.length ∧ name = GivenNames.suffixed base n := by
  cases h with
  | kept free => exact absurd rfl hne
  | @numbered n taken least =>
      refine ⟨n, least.1.1, ?_, rfl⟩
      refine GivenNames.le_length_of_forall_mem (GivenNames.candidate_injective base) ?_
      intro i hi
      cases i with
      | zero => exact taken
      | succ i =>
          -- a free number below the chosen one would have been chosen
          by_contra hfree
          exact absurd (least.2 ⟨Nat.succ_pos i, hfree⟩) (Nat.not_le.mpr hi)

theorem NamedGreedily.unique {symbols named other : List ResolvedSymbol}
    (h : NamedGreedily symbols named) (h' : NamedGreedily symbols other) : named = other := by
  have hlength : named.length = other.length := by rw [h.length_eq, h'.length_eq]
  -- where two lists agree up to a symbol, the same names are taken for it
  have htake : ∀ i ≤ named.length, named.take i = other.take i := by
    intro i
    induction i with
    | zero => intro _; rfl
    | succ i ih =>
        intro hi
        have hs : i < symbols.length := by rw [← h.length_eq]; exact hi
        have hn : i < named.length := hi
        have ho : i < other.length := by rw [← hlength]; exact hi
        have hearlier := ih (by omega)
        have hname : named[i].finalName = other[i].finalName := by
          have hgreedy := h.greedy i hn
          have hgreedy' := h'.greedy i ho
          rw [h.frame i hs hn] at hgreedy
          rw [h'.frame i hs ho, ← hearlier] at hgreedy'
          exact hgreedy.unique hgreedy'
        rw [List.take_succ_eq_append_getElem hn, List.take_succ_eq_append_getElem ho, hearlier,
          h.frame i hs hn, h'.frame i hs ho, hname]
  have hall := htake named.length (Nat.le_refl _)
  rwa [List.take_length, hlength, List.take_length] at hall

theorem namedGreedily_disambiguate (symbols : List ResolvedSymbol) :
    NamedGreedily symbols (disambiguate symbols) where
  length_eq := disambiguate_length symbols
  frame i hs hn := getElem_disambiguateAfter .none symbols i hs hn
  greedy i hn := disambiguateAfter_greedy GivenNames.tracks_none symbols i hn

/-- What does not depend on final names is the same before and after naming. -/
theorem NamedGreedily.map_eq {α : Type} {f : ResolvedSymbol → α}
    (hf : ∀ s name, f (s.withFinalName name) = f s) {symbols named : List ResolvedSymbol}
    (h : NamedGreedily symbols named) : named.map f = symbols.map f := by
  refine List.ext_getElem (by rw [List.length_map, List.length_map, h.length_eq]) ?_
  intro i hn hs
  rw [List.length_map] at hn hs
  rw [List.getElem_map, List.getElem_map, h.frame i hs hn, hf]

/-- Greedy names of one scope are pairwise different. -/
theorem NamedGreedily.pairwise {symbols named : List ResolvedSymbol}
    (h : NamedGreedily symbols named) :
    named.Pairwise fun s t => s.scope = t.scope → s.finalName ≠ t.finalName := by
  rw [List.pairwise_iff_getElem]
  intro i j hi hj hij hscope hname
  refine (h.greedy j hj).not_mem ?_
  simp only [namesIn, List.mem_map, List.mem_filter, decide_eq_true_eq]
  exact ⟨named[i], ⟨List.mem_take_iff_getElem.mpr ⟨i, by omega, rfl⟩, hscope⟩, hname⟩

/-- Naming is the greedy choice. Each search for a free number ends, whatever names are given; the
result is the only list that is named greedily; a name other than the base name carries a number
that the earlier symbols of the scope outnumber; and no two symbols of a scope share a name. -/
theorem disambiguate_eq_iff_namedGreedily (symbols : List ResolvedSymbol) :
    (∀ (g : GivenNames) (scope : Scope) (base : Text) (index : Nat),
      g.SearchEnds scope base index
        (g.firstFree scope base (g.taken.length + 1) index)) ∧
    (∀ named, disambiguate symbols = named ↔ NamedGreedily symbols named) ∧
    (∀ i (hn : i < (disambiguate symbols).length),
      (disambiguate symbols)[i].finalName ≠ (disambiguate symbols)[i].baseName →
      ∃ n, 1 ≤ n ∧
        n ≤ (namesIn (disambiguate symbols)[i].scope ((disambiguate symbols).take i)).length ∧
        (disambiguate symbols)[i].finalName =
          GivenNames.suffixed (disambiguate symbols)[i].baseName n) ∧
    (disambiguate symbols).Pairwise
      fun s t => s.scope = t.scope → s.finalName ≠ t.finalName := by
  have hgreedy := namedGreedily_disambiguate symbols
  refine ⟨GivenNames.searchEnds_firstFree, fun named => ⟨?_, fun h => hgreedy.unique h⟩,
    fun i hn hne => (hgreedy.greedy i hn).exists_le_length hne, hgreedy.pairwise⟩
  rintro rfl
  exact hgreedy

/-- The second symbol takes the name that the third one would have kept. -/
example :
    (disambiguate (["a", "a", "a__1"].map fun name =>
      .initial (.ofName name) name .function false)).map (·.finalName) =
      [Text.ofString "a", "a__1", "a__1__1"] := rfl

end BindingNames
