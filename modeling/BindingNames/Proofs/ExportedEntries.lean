import BindingNames.Proofs.BindingTable
import Mathlib.Data.List.Perm.Basic

/-!
The table of the exported symbols. A table is a stable sort: its entries are in the order of their
names in the library, and entries of one name, which other lists of symbols may well have, keep the
order of the symbols. Only one table of some entries is like that. Leaving out names keeps both
properties, so leaving out symbols before the table is made and leaving out entries afterwards is
the same, and what the libraries export has no influence on the entries that are left.
-/

namespace BindingNames

namespace SymbolTable

/-- A table is a stable sort of some entries. -/
structure SortsStably (given table : List TableEntry) : Prop where
  ordered : table.Pairwise fun a b => a.mangle ≤ b.mangle
  stable : ∀ name, table.filter (·.mangle = name) = given.filter (·.mangle = name)

theorem mem_iff_of_filter_mangle_eq {table other : List TableEntry}
    (h : ∀ name, table.filter (·.mangle = name) = other.filter (·.mangle = name))
    (e : TableEntry) : e ∈ table ↔ e ∈ other := by
  have hname := congrArg (e ∈ ·) (h e.mangle)
  simpa using hname

/-- Tables in order are equal if they have the same entries of each name, in the same order. -/
theorem eq_of_filter_mangle_eq {table other : List TableEntry}
    (htable : table.Pairwise fun a b => a.mangle ≤ b.mangle)
    (hother : other.Pairwise fun a b => a.mangle ≤ b.mangle)
    (h : ∀ name, table.filter (·.mangle = name) = other.filter (·.mangle = name)) :
    table = other := by
  have hmem := mem_iff_of_filter_mangle_eq h
  induction table generalizing other with
  | nil =>
      cases other with
      | nil => rfl
      | cons f others => simpa using hmem f
  | cons e rest ih =>
      cases other with
      | nil => simpa using (hmem e).mp List.mem_cons_self
      | cons f others =>
          obtain ⟨he, hrest⟩ := List.pairwise_cons.mp htable
          obtain ⟨hf, hothers⟩ := List.pairwise_cons.mp hother
          -- each of the first entries is somewhere in the other table, so their names are equal
          have hle : e.mangle ≤ f.mangle := by
            rcases List.mem_cons.mp ((hmem f).mpr List.mem_cons_self) with rfl | hf
            · exact List.le_refl _
            · exact he f hf
          have hge : f.mangle ≤ e.mangle := by
            rcases List.mem_cons.mp ((hmem e).mp List.mem_cons_self) with rfl | he
            · exact List.le_refl _
            · exact hf e he
          have hname : f.mangle = e.mangle := List.le_antisymm hge hle
          have hfirst := h e.mangle
          rw [List.filter_cons_of_pos (by simp), List.filter_cons_of_pos (by simp [hname])]
            at hfirst
          obtain ⟨rfl, -⟩ := List.cons.inj hfirst
          have htail : ∀ name,
              rest.filter (·.mangle = name) = others.filter (·.mangle = name) := by
            intro name
            have hsame := h name
            rw [List.filter_cons, List.filter_cons] at hsame
            split at hsame
            · exact (List.cons.inj hsame).2
            · exact hsame
          exact congrArg _ (ih hrest hothers htail (mem_iff_of_filter_mangle_eq htail))

namespace SortsStably

variable {given table other : List TableEntry}

theorem unique (h : SortsStably given table) (k : SortsStably given other) : table = other :=
  eq_of_filter_mangle_eq h.ordered k.ordered fun name => (h.stable name).trans (k.stable name).symm

/-- Leaving out some names keeps the order and its stability. -/
theorem filter (h : SortsStably given table) (keeps : Text → Bool) :
    SortsStably (given.filter fun e => keeps e.mangle) (table.filter fun e => keeps e.mangle) where
  ordered := h.ordered.filter _
  stable name := by
    rw [List.filter_comm, h.stable, List.filter_comm]

end SortsStably

theorem sortsStably_build (pointer : Bool) (symbols : List ResolvedSymbol) :
    SortsStably (symbols.map (entry pointer)) (build pointer symbols) where
  ordered := List.pairwise_map.mp (mangle_build_sorted pointer symbols)
  stable name := by
    -- the entries of one name are in order as they are given, so sorting keeps them as a sublist
    have hgiven : ((symbols.map (entry pointer)).filter (·.mangle = name)).Pairwise
        fun a b => precedes a b := by
      refine List.pairwise_of_forall_mem_list fun a ha b hb => ?_
      rw [List.mem_filter, decide_eq_true_eq] at ha hb
      rw [precedes, ha.2, hb.2]
      exact decide_eq_true (List.le_refl name)
    have hsub := (List.sublist_mergeSort precedes_trans precedes_total hgiven
      List.filter_sublist).filter (·.mangle = name)
    simp only [List.filter_filter, Bool.and_self] at hsub
    exact (hsub.eq_of_length ((build_perm pointer symbols).filter _).length_eq.symm).symm

theorem build_filter_symbolName (pointer : Bool) (symbols : List ResolvedSymbol)
    (keeps : Text → Bool) :
    build pointer (symbols.filter fun s => keeps s.symbolName) =
      (build pointer symbols).filter fun e => keeps e.mangle := by
  have hbuild := sortsStably_build pointer (symbols.filter fun s => keeps s.symbolName)
  have hgiven : (symbols.filter fun s => keeps s.symbolName).map (entry pointer) =
      (symbols.map (entry pointer)).filter fun e => keeps e.mangle := by
    rw [List.filter_map]
    rfl
  rw [hgiven] at hbuild
  exact hbuild.unique ((sortsStably_build pointer symbols).filter keeps)

end SymbolTable

namespace Mapper

/-- The table of some symbols is their stable sort by names in the library, and nothing else is.
The table of those that the libraries export has the entries of the whole table whose names are
exported, as they are and in the same order. -/
theorem build_filterExported (m : Mapper) (symbols : List ResolvedSymbol) (exported : List Text)
    (pointer : Bool) :
    (∀ table, SymbolTable.SortsStably (symbols.map (SymbolTable.entry pointer)) table ↔
      table = SymbolTable.build pointer symbols) ∧
    SymbolTable.build pointer (m.filterExported symbols exported).2.2 =
      (SymbolTable.build pointer symbols).filter (·.mangle ∈ exported) := by
  refine ⟨fun table => ⟨fun h => ?_, ?_⟩, ?_⟩
  · exact h.unique (SymbolTable.sortsStably_build pointer symbols)
  · rintro rfl
    exact SymbolTable.sortsStably_build pointer symbols
  · have hbuild := SymbolTable.build_filter_symbolName pointer symbols (· ∈ exported)
    have hkept : (m.filterExported symbols exported).2.2 =
        symbols.filter (·.symbolName ∈ exported) := by
      refine List.filter_congr fun s _ => ?_
      rw [isExported, List.contains_eq_mem]
    rw [hkept, hbuild]

end Mapper

end BindingNames
