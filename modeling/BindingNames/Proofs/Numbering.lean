import BindingNames.Proofs.ScopeSeparation
import BindingNames.Proofs.TextPieces
import BindingNames.Proofs.WordText
import Mathlib.Data.List.Count

/-!
Which symbols keep their base names, and what the numbers of the others count. The first symbol of a
scope with some base name keeps it unless an earlier one has got it, as another base name with a
number; then the symbol is displaced and gets a number itself. Where no base name of a scope is
another one with a number, nothing is displaced: names that are made from different base names are
different, so no search moves on, and the number of a symbol counts the earlier ones with its base
name. Which names a scope has then does not depend on the order of the symbols.
-/

namespace BindingNames

open GivenNames

/-- The symbol at `i` is the first one of its scope with its base name. -/
def IsFirst (symbols : List ResolvedSymbol) (i : Fin symbols.length) : Prop :=
  ∀ j < i, (symbols.get j).scope = (symbols.get i).scope →
    (symbols.get j).baseName ≠ (symbols.get i).baseName

/-- The base name of the symbol at `i` is that of an earlier symbol of the scope with a number, and
the earlier symbol has got it. -/
structure DisplacedBy (symbols : List ResolvedSymbol) (i j : Fin symbols.length) (n : Nat) :
    Prop where
  before : j < i
  scope_eq : (symbols.get j).scope = (symbols.get i).scope
  one_le : 1 ≤ n
  baseName_eq : (symbols.get i).baseName = suffixed (symbols.get j).baseName n
  finalName_eq : (disambiguate symbols)[j].finalName = (symbols.get i).baseName

def occurrencesIn (scope : Scope) (base : Text) (symbols : List ResolvedSymbol) : Nat :=
  symbols.countP fun s => s.scope = scope ∧ s.baseName = base

/-- How many earlier symbols of its scope have the base name of the symbol at `i`. -/
def earlierOccurrences (symbols : List ResolvedSymbol) (i : Fin symbols.length) : Nat :=
  occurrencesIn (symbols.get i).scope (symbols.get i).baseName (symbols.take i)

/-- No base name of a scope is another one with a number. -/
def NoneNumbered (symbols : List ResolvedSymbol) : Prop :=
  ∀ s ∈ symbols, ∀ t ∈ symbols, s.scope = t.scope → ∀ k, 1 ≤ k →
    t.baseName ≠ suffixed s.baseName k

variable {symbols : List ResolvedSymbol}

/-! ### Earlier names -/

def earlierNames (symbols : List ResolvedSymbol) (i : Fin symbols.length) : List Text :=
  namesIn (symbols.get i).scope ((disambiguate symbols).take i)

theorem getElem_disambiguate (i : Fin symbols.length) :
    (disambiguate symbols)[i] =
      (symbols.get i).withFinalName (disambiguate symbols)[i].finalName :=
  (namedGreedily_disambiguate symbols).frame i i.isLt (by simp)

theorem scope_disambiguate (i : Fin symbols.length) :
    (disambiguate symbols)[i].scope = (symbols.get i).scope := by
  rw [getElem_disambiguate]
  rfl

theorem greedyName_disambiguate (i : Fin symbols.length) :
    GreedyName (earlierNames symbols i) (symbols.get i).baseName
      (disambiguate symbols)[i].finalName := by
  have hgreedy := (namedGreedily_disambiguate symbols).greedy i (by simp)
  have hbase : (disambiguate symbols)[i].baseName = (symbols.get i).baseName := by
    rw [getElem_disambiguate]
    rfl
  rw [← hbase, earlierNames, ← scope_disambiguate i]
  exact hgreedy

theorem mem_namesIn_take_disambiguate {scope : Scope} {m : Nat} {name : Text} :
    name ∈ namesIn scope ((disambiguate symbols).take m) ↔
      ∃ j : Fin symbols.length, j < m ∧ (symbols.get j).scope = scope ∧
        (disambiguate symbols)[j].finalName = name := by
  rw [mem_namesIn_take]
  constructor
  · rintro ⟨j, hj, hjm, hscope, hname⟩
    have hjs : j < symbols.length := by simpa using hj
    exact ⟨⟨j, hjs⟩, hjm, (scope_disambiguate ⟨j, hjs⟩).symm.trans hscope, hname⟩
  · rintro ⟨j, hjm, hscope, hname⟩
    exact ⟨j, by simp, hjm, (scope_disambiguate j).trans hscope, hname⟩

theorem mem_earlierNames {i : Fin symbols.length} {name : Text} :
    name ∈ earlierNames symbols i ↔
      ∃ j < i, (symbols.get j).scope = (symbols.get i).scope ∧
        (disambiguate symbols)[j].finalName = name :=
  mem_namesIn_take_disambiguate

theorem length_earlierNames (i : Fin symbols.length) :
    (earlierNames symbols i).length =
      (symbolsIn (symbols.get i).scope (symbols.take i)).length := by
  have hscopes : (disambiguate symbols).map (·.scope) = symbols.map (·.scope) :=
    (namedGreedily_disambiguate symbols).map_eq fun s name => rfl
  -- which symbols are counted can be told from the scopes
  have hcount : ∀ l : List ResolvedSymbol, (symbolsIn (symbols.get i).scope (l.take i)).length =
      ((l.map (·.scope)).take i).countP fun scope => scope = (symbols.get i).scope := by
    intro l
    rw [symbolsIn, ← List.countP_eq_length_filter, ← List.map_take, List.countP_map]
    rfl
  rw [hcount symbols, ← hscopes, ← hcount, earlierNames, namesIn, List.length_map, symbolsIn]

/-! ### Displaced symbols -/

/-- A first symbol finds its base name taken only by a displacement, for which the number of the
other name must be below the count of the earlier symbols. -/
theorem mem_earlierNames_iff_displacedBy {i : Fin symbols.length} (hfirst : IsFirst symbols i) :
    (symbols.get i).baseName ∈ earlierNames symbols i ↔ ∃ j n, DisplacedBy symbols i j n := by
  rw [mem_earlierNames]
  constructor
  · rintro ⟨j, hji, hscope, hname⟩
    have hne : (disambiguate symbols)[j].finalName ≠ (symbols.get j).baseName := by
      rw [hname]
      exact (hfirst j hji hscope).symm
    obtain ⟨n, hn, -, hsuffixed⟩ := (greedyName_disambiguate j).exists_le_length hne
    exact ⟨j, n, hji, hscope, hn, hname.symm.trans hsuffixed, hname⟩
  · rintro ⟨j, n, h⟩
    exact ⟨j, h.before, h.scope_eq, h.finalName_eq⟩

theorem sublist_take_of_lt {j : Fin symbols.length} {m : Nat} (hjm : j < m) :
    (symbols.take j ++ [symbols.get j]).Sublist (symbols.take m) := by
  have hsplit : symbols.take (j + 1) = symbols.take j ++ [symbols.get j] :=
    List.take_succ_eq_append_getElem j.isLt
  rw [← hsplit]
  exact List.take_sublist_take_left hjm

theorem length_earlierNames_lt {i j : Fin symbols.length} (hji : j < i)
    (hscope : (symbols.get j).scope = (symbols.get i).scope) :
    (earlierNames symbols j).length < (earlierNames symbols i).length := by
  have hle : (symbolsIn (symbols.get i).scope (symbols.take j ++ [symbols.get j])).length ≤
      (symbolsIn (symbols.get i).scope (symbols.take i)).length :=
    ((sublist_take_of_lt hji).filter _).length_le
  rw [length_earlierNames, length_earlierNames, hscope]
  rw [symbolsIn, List.filter_append, List.length_append,
    List.filter_cons_of_pos (by simpa using hscope)] at hle
  exact hle

theorem DisplacedBy.lt_length {i j : Fin symbols.length} {n : Nat}
    (h : DisplacedBy symbols i j n) :
    n < (symbolsIn (symbols.get i).scope (symbols.take i)).length := by
  have hne : (disambiguate symbols)[j].finalName ≠ (symbols.get j).baseName := by
    rw [h.finalName_eq, h.baseName_eq]
    exact suffixed_ne_self _ n
  obtain ⟨m, -, hle, hm⟩ := (greedyName_disambiguate j).exists_le_length hne
  rw [h.finalName_eq, h.baseName_eq] at hm
  rw [suffixed_injective _ hm, ← length_earlierNames]
  exact Nat.lt_of_le_of_lt hle (length_earlierNames_lt h.before h.scope_eq)

/-- The first symbol of a scope with a base name keeps it if and only if it is not displaced. A
displacement needs more earlier symbols of the scope than its number says, and the displaced symbol
gets the least number that is free. -/
theorem first_keeps_baseName_iff (symbols : List ResolvedSymbol) (i : Fin symbols.length)
    (hfirst : IsFirst symbols i) :
    ((disambiguate symbols)[i].finalName = (symbols.get i).baseName ↔
        ∀ j n, ¬ DisplacedBy symbols i j n) ∧
      ∀ j n, DisplacedBy symbols i j n →
        n < (symbolsIn (symbols.get i).scope (symbols.take i)).length ∧
        ∃ m, IsLeast {m | 1 ≤ m ∧
            suffixed (symbols.get i).baseName m ∉
              namesIn (symbols.get i).scope ((disambiguate symbols).take i)} m ∧
          (disambiguate symbols)[i].finalName = suffixed (symbols.get i).baseName m := by
  have hgreedy := greedyName_disambiguate i
  constructor
  · constructor
    · intro hkept j n hdisplaced
      have hmem := (mem_earlierNames_iff_displacedBy hfirst).mpr ⟨j, n, hdisplaced⟩
      rw [← hkept] at hmem
      exact hgreedy.not_mem hmem
    · intro hnone
      refine hgreedy.unique (.kept fun hmem => ?_)
      obtain ⟨j, n, hdisplaced⟩ := (mem_earlierNames_iff_displacedBy hfirst).mp hmem
      exact hnone j n hdisplaced
  · intro j n hdisplaced
    refine ⟨hdisplaced.lt_length, ?_⟩
    have hmem := (mem_earlierNames_iff_displacedBy hfirst).mpr ⟨j, n, hdisplaced⟩
    generalize (disambiguate symbols)[i].finalName = name at hgreedy
    cases hgreedy with
    | kept free => exact absurd hmem free
    | numbered _ least => exact ⟨_, least, rfl⟩

/-- The name generated for the second symbol is the base name of the third one. -/
theorem first_keeps_baseName_iff_displaced :
    let symbols : List ResolvedSymbol := ["a", "a", "a__1"].map fun name =>
      .initial (.ofName name) name .function false
    let third : Fin symbols.length := ⟨2, by decide⟩
    let second : Fin symbols.length := ⟨1, by decide⟩
    IsFirst symbols third ∧ DisplacedBy symbols third second 1 ∧
      (disambiguate symbols)[third].finalName ≠ (symbols.get third).baseName := by
  intro symbols third second
  have hfirst : IsFirst symbols third := by unfold IsFirst; decide
  have hdisplaced : DisplacedBy symbols third second 1 :=
    ⟨by decide, by decide, by decide, by decide, by decide⟩
  refine ⟨hfirst, hdisplaced, fun hkept => ?_⟩
  exact (first_keeps_baseName_iff symbols third hfirst).1.mp hkept second 1 hdisplaced

/-! ### Names from different base names -/

theorem Text.underscore_not_mem_ofNat (n : Nat) : Code.char '_' ∉ Text.ofNat n := by
  intro hmem
  obtain ⟨c, hc, heq⟩ := List.mem_map.mp hmem
  cases heq
  exact absurd (Nat.isDigit_of_mem_toDigits (by omega) (by omega) hc) (by decide)

/-- The last underscore of a name with a number stands in front of the number. -/
theorem suffixed_inj {base other : Text} {m n : Nat} (h : suffixed base m = suffixed other n) :
    base = other ∧ m = n := by
  have hreverse : ∀ (b : Text) (k : Nat), (suffixed b k).reverse =
      (Text.ofNat k).reverse ++ Code.char '_' :: Code.char '_' :: b.reverse := by
    intro b k
    simp [suffixed, Text.ofString]
  have hnumber : ∀ k : Nat, Code.char '_' ∉ (Text.ofNat k).reverse := by
    intro k
    rw [List.mem_reverse]
    exact Text.underscore_not_mem_ofNat k
  have hparts := congrArg List.reverse h
  rw [hreverse, hreverse] at hparts
  obtain ⟨hdigits, hbases⟩ := Text.append_separator_inj (hnumber m) (hnumber n) hparts
  exact ⟨List.reverse_inj.mp (List.cons.inj hbases).2,
    Text.ofNat_injective (List.reverse_inj.mp hdigits)⟩

theorem NoneNumbered.candidate_inj (h : NoneNumbered symbols) {s t : ResolvedSymbol}
    (hs : s ∈ symbols) (ht : t ∈ symbols) (hscope : s.scope = t.scope) {m n : Nat}
    (heq : candidate s.baseName m = candidate t.baseName n) : s.baseName = t.baseName ∧ m = n := by
  cases m with
  | zero =>
      cases n with
      | zero => exact ⟨heq, rfl⟩
      | succ n => exact absurd heq (h t ht s hs hscope.symm (n + 1) (by omega))
  | succ m =>
      cases n with
      | zero => exact absurd heq.symm (h s hs t ht hscope (m + 1) (by omega))
      | succ n => exact suffixed_inj heq

/-! ### Occurrences -/

theorem exists_countP_take_eq {α : Type} {p : α → Bool} {l : List α} {n : Nat}
    (h : n < l.countP p) : ∃ j, ∃ hj : j < l.length, p l[j] ∧ (l.take j).countP p = n := by
  induction l generalizing n with
  | nil => simp at h
  | cons a l ih =>
      by_cases ha : p a
      · rw [List.countP_cons_of_pos ha] at h
        cases n with
        | zero => exact ⟨0, by simp, ha, rfl⟩
        | succ n =>
            obtain ⟨j, hj, hp, hcount⟩ := ih (Nat.lt_of_succ_lt_succ h)
            refine ⟨j + 1, Nat.succ_lt_succ hj, hp, ?_⟩
            rw [List.take_succ_cons, List.countP_cons_of_pos ha, hcount]
      · rw [List.countP_cons_of_neg ha] at h
        obtain ⟨j, hj, hp, hcount⟩ := ih h
        refine ⟨j + 1, Nat.succ_lt_succ hj, hp, ?_⟩
        rw [List.take_succ_cons, List.countP_cons_of_neg ha, hcount]

/-- The occurrences of a base name have the numbers below their count. -/
theorem lt_occurrencesIn_take_iff {scope : Scope} {base : Text} {m n : Nat} :
    n < occurrencesIn scope base (symbols.take m) ↔
      ∃ j : Fin symbols.length, j < m ∧ (symbols.get j).scope = scope ∧
        (symbols.get j).baseName = base ∧ earlierOccurrences symbols j = n := by
  constructor
  · intro h
    obtain ⟨j, hj, hp, hcount⟩ := exists_countP_take_eq h
    rw [List.length_take] at hj
    rw [List.getElem_take, decide_eq_true_eq] at hp
    obtain ⟨rfl, rfl⟩ := hp
    refine ⟨⟨j, by omega⟩, show j < m by omega, rfl, rfl, ?_⟩
    rw [List.take_take, Nat.min_eq_left (by omega)] at hcount
    exact hcount
  · rintro ⟨j, hjm, rfl, rfl, rfl⟩
    have hle : occurrencesIn (symbols.get j).scope (symbols.get j).baseName
        (symbols.take j ++ [symbols.get j]) ≤
        occurrencesIn (symbols.get j).scope (symbols.get j).baseName (symbols.take m) :=
      (sublist_take_of_lt hjm).countP_le
    rw [occurrencesIn, List.countP_append, List.countP_cons_of_pos (by simp)] at hle
    exact hle

theorem lt_occurrencesIn_iff {scope : Scope} {base : Text} {n : Nat} :
    n < occurrencesIn scope base symbols ↔
      ∃ j : Fin symbols.length, (symbols.get j).scope = scope ∧ (symbols.get j).baseName = base ∧
        earlierOccurrences symbols j = n := by
  have htake : occurrencesIn scope base (symbols.take symbols.length) =
      occurrencesIn scope base symbols := by rw [List.take_length]
  rw [← htake, lt_occurrencesIn_take_iff]
  simp only [Fin.is_lt, true_and]

/-! ### Exact numbers -/

/-- Where the earlier names hold the base name and the first numbers, the next one is given. -/
theorem GreedyName.of_mem_iff_lt {earlier : List Text} {base : Text} {k : Nat}
    (h : ∀ n, candidate base n ∈ earlier ↔ n < k) : GreedyName earlier base (candidate base k) := by
  cases k with
  | zero => exact .kept fun hmem => Nat.not_lt_zero 0 ((h 0).mp hmem)
  | succ k =>
      refine .numbered ((h 0).mpr (Nat.succ_pos k)) ⟨⟨Nat.succ_pos k, fun hmem => ?_⟩, ?_⟩
      · exact Nat.lt_irrefl _ ((h (k + 1)).mp hmem)
      · rintro n ⟨hn, hfree⟩
        obtain ⟨n, rfl⟩ : ∃ n', n = n' + 1 := ⟨n - 1, by omega⟩
        exact Nat.not_lt.mp fun hlt => hfree ((h (n + 1)).mpr hlt)

theorem NoneNumbered.finalName_eq (h : NoneNumbered symbols) (i : Fin symbols.length) :
    (disambiguate symbols)[i].finalName =
      candidate (symbols.get i).baseName (earlierOccurrences symbols i) := by
  obtain ⟨i, hi⟩ := i
  -- the names before a symbol are known
  induction i using Nat.strong_induction_on with
  | _ i ih =>
      refine (greedyName_disambiguate ⟨i, hi⟩).unique (.of_mem_iff_lt fun n => ?_)
      rw [mem_earlierNames, earlierOccurrences, lt_occurrencesIn_take_iff]
      constructor
      · rintro ⟨j, hji, hscope, hname⟩
        rw [ih j hji] at hname
        obtain ⟨hbase, hn⟩ :=
          h.candidate_inj (List.getElem_mem _) (List.getElem_mem _) hscope hname
        exact ⟨j, hji, hscope, hbase, hn⟩
      · rintro ⟨j, hji, hscope, hbase, rfl⟩
        refine ⟨j, hji, hscope, ?_⟩
        rw [ih j hji, hbase]

theorem NoneNumbered.mem_namesIn_iff (h : NoneNumbered symbols) {scope : Scope} {name : Text} :
    name ∈ namesIn scope (disambiguate symbols) ↔
      ∃ base n, n < occurrencesIn scope base symbols ∧ candidate base n = name := by
  have htake : (disambiguate symbols).take symbols.length = disambiguate symbols :=
    List.take_of_length_le (by simp)
  rw [← htake, mem_namesIn_take_disambiguate]
  constructor
  · rintro ⟨j, hj, rfl, rfl⟩
    have hn := lt_occurrencesIn_iff.mpr ⟨j, rfl, rfl, rfl⟩
    exact ⟨_, earlierOccurrences symbols j, hn, (h.finalName_eq j).symm⟩
  · rintro ⟨base, n, hn, rfl⟩
    obtain ⟨j, hscope, rfl, rfl⟩ := lt_occurrencesIn_iff.mp hn
    exact ⟨j, j.isLt, hscope, h.finalName_eq j⟩

theorem nodup_namesIn_disambiguate (symbols : List ResolvedSymbol) (scope : Scope) :
    (namesIn scope (disambiguate symbols)).Nodup := by
  rw [namesIn, List.Nodup, List.pairwise_map]
  refine (namedGreedily_disambiguate symbols).pairwise.filter _ |>.imp_of_mem ?_
  intro s t hs ht hne
  have hscope := of_decide_eq_true (List.mem_filter.mp hs).2
  exact hne (hscope.trans (of_decide_eq_true (List.mem_filter.mp ht).2).symm)

/-- Where no base name of a scope is another one with a number, the first symbol with a base name
keeps it, and each later one gets the number of those before it. So the names of a scope are the
same, up to their order, whatever the order of the symbols. -/
theorem finalName_counts_occurrences (symbols : List ResolvedSymbol) (h : NoneNumbered symbols) :
    (∀ i : Fin symbols.length, (disambiguate symbols)[i].finalName =
      candidate (symbols.get i).baseName (earlierOccurrences symbols i)) ∧
    ∀ reordered : List ResolvedSymbol, reordered.Perm symbols → ∀ scope,
      (namesIn scope (disambiguate reordered)).Perm (namesIn scope (disambiguate symbols)) := by
  refine ⟨h.finalName_eq, fun reordered hperm scope => ?_⟩
  have hreordered : NoneNumbered reordered := fun s hs t ht =>
    h s (hperm.mem_iff.mp hs) t (hperm.mem_iff.mp ht)
  have hcount : ∀ base, occurrencesIn scope base reordered = occurrencesIn scope base symbols :=
    fun base => hperm.countP_eq _
  rw [List.perm_ext_iff_of_nodup (nodup_namesIn_disambiguate _ _) (nodup_namesIn_disambiguate _ _)]
  intro name
  simp only [hreordered.mem_namesIn_iff, h.mem_namesIn_iff, hcount]

/-- A name with a number among the methods does not matter to the functions, nor does a number that
is not behind two underscores. -/
theorem finalName_counts_occurrences_mixed :
    let function (name : Text) : ResolvedSymbol := .initial (.ofName name) name .function false
    let method (name : Text) : ResolvedSymbol := .initial (.ofName name) name (.method "Foo") false
    let symbols : List ResolvedSymbol :=
      [function "a", method "a__1", function "a", function "a_1", function "a"]
    NoneNumbered symbols ∧
      (disambiguate symbols)[(4 : Fin symbols.length)].finalName = Text.ofString "a__2" ∧
      (namesIn .functions (disambiguate symbols.reverse)).Perm
        (namesIn .functions (disambiguate symbols)) := by
  intro function method symbols
  have hbases : ∀ s ∈ symbols, ∀ t ∈ symbols, s.scope = t.scope →
      ¬ s.baseName ++ Text.ofString "__" <+: t.baseName := by decide
  have h : NoneNumbered symbols := fun s hs t ht hscope k _ heq =>
    hbases s hs t ht hscope ⟨Text.ofNat k, heq.symm⟩
  obtain ⟨hnames, hperm⟩ := finalName_counts_occurrences symbols h
  refine ⟨h, ?_, hperm symbols.reverse (List.reverse_perm symbols) .functions⟩
  rw [hnames]
  rfl

end BindingNames
