import BindingNames.Proofs.Mapping

/-!
Declarations at the end of a header. Each declaration is resolved by itself, a symbol is named after
those before it only, and a part of declarations without duplicates has none either. So a run over
more declarations begins with what the run over the first ones gives, with the same final names,
whatever is added and whichever names collide.
-/

namespace BindingNames

open Text (ofString)

/-- Symbols that are added do not change the names of those before them. -/
theorem disambiguate_append (xs ys : List ResolvedSymbol) :
    ∃ named, disambiguate (xs ++ ys) = disambiguate xs ++ named ∧
      named.map (·.decl) = ys.map (·.decl) := by
  obtain ⟨g, happend⟩ := disambiguateAfter_append .none xs ys
  refine ⟨disambiguateAfter g ys, happend, ?_⟩
  have hall := (namedGreedily_disambiguate (xs ++ ys)).map_eq (f := (·.decl)) fun _ _ => rfl
  have hfront := (namedGreedily_disambiguate xs).map_eq (f := (·.decl)) fun _ _ => rfl
  change disambiguate (xs ++ ys) = disambiguate xs ++ _ at happend
  rw [happend, List.map_append, List.map_append, hfront] at hall
  exact List.append_cancel_left hall

namespace Mapper

theorem mappedOf_append (xs ys : List Resolution) :
    ∃ new, (mappedOf (xs ++ ys)).symbols = (mappedOf xs).symbols ++ new ∧
      new.map (·.decl) = ys.map (·.symbol.decl) ∧
      (mappedOf (xs ++ ys)).warnings = (mappedOf xs).warnings ++ ys.filterMap (·.warning) := by
  obtain ⟨new, hsymbols, hdecls⟩ := disambiguate_append (xs.map (·.symbol)) (ys.map (·.symbol))
  refine ⟨new, ?_, ?_, ?_⟩
  · simpa only [mappedOf, List.map_append] using hsymbols
  · rw [hdecls, List.map_map]
    rfl
  · simp only [mappedOf, List.filterMap_append]

/-- The statistics of earlier runs have no influence on what a mapper computes. -/
theorem result_resolve_withStatistics (m : Mapper) (s : Statistics) (types : List TypeDecl)
    (ds : List FunctionDecl) :
    (({ m with statistics := s } : Mapper).resolve types ds).2.result =
      (m.resolve types ds).2.result := by
  rw [result_resolve, result_resolve]
  rfl

/-- Where a run over more declarations succeeds, the run over the first of them does too, at any
point in the use of the mapper. It has one symbol for each kept declaration, and its symbols, final
names included, and its warnings are the front of those of the longer run, which goes on with the
kept declarations that were added. -/
theorem result_resolve_append (m : Mapper) {types : List TypeDecl} {ds es : List FunctionDecl}
    {x : Mapped} (h : (m.resolve types (ds ++ es)).2.result = .ok x) :
    ∃ y : Mapped,
      (∀ s : Statistics,
        (({ m with statistics := s } : Mapper).resolve types ds).2.result = .ok y) ∧
      y.symbols.map (·.decl) = m.kept ds ∧
      (∃ new, x.symbols = y.symbols ++ new ∧ new.map (·.decl) = m.kept es) ∧
      y.warnings <+: x.warnings := by
  obtain ⟨r, hr, hnodup, hfault, rfl⟩ := result_resolve_eq_ok_iff.mp h
  rw [kept_append] at hfault ⊢
  rw [List.map_append] at hnodup ⊢
  have hfront : (m.resolve types ds).2.result = .ok (mappedOf ((m.kept ds).map r.resolve)) :=
    result_resolve_eq_ok_iff.mpr ⟨r, hr, (List.nodup_append.mp hnodup).1,
      fun d hd => hfault d (List.mem_append_left _ hd), rfl⟩
  obtain ⟨new, hsymbols, hdecls, hwarnings⟩ :=
    mappedOf_append ((m.kept ds).map r.resolve) ((m.kept es).map r.resolve)
  refine ⟨_, fun s => ?_, decls_mappedOf r (m.kept ds), ⟨new, hsymbols, ?_⟩, ?_⟩
  · rw [result_resolve_withStatistics, hfront]
  · rw [hdecls, List.map_map]
    exact List.map_id'' r.resolve_decl (m.kept es)
  · rw [hwarnings]
    exact List.prefix_append _ _

/-- The function that is added has the name that an overloaded one has got by then. -/
theorem result_resolve_append_overloaded :
    let m : Mapper := ⟨Configuration.unset, .empty, ⟨[], [.text "old"]⟩, .zero⟩
    let overload : Text → FunctionDecl :=
      fun mangled => { FunctionDecl.ofName "open" with mangledName := some mangled }
    let ds : List FunctionDecl := [overload "_Z4openv", overload "_Z4openi"]
    let es : List FunctionDecl := [.ofName "old", .ofName "open__1"]
    ∃ x y, (m.resolve [] (ds ++ es)).2.result = .ok x ∧
      x.symbols.map (·.finalName) = [ofString "open", "open__1", "open__1__1"] ∧
      (m.resolve [] ds).2.result = .ok y ∧
      ∃ new, x.symbols = y.symbols ++ new ∧ new.map (·.decl) = [.ofName "open__1"] := by
  intro m overload ds es
  have hall : ∃ x, (m.resolve [] (ds ++ es)).2.result = .ok x ∧
      x.symbols.map (·.finalName) = [ofString "open", "open__1", "open__1__1"] :=
    ⟨_, rfl, by cbv⟩
  obtain ⟨x, hx, hnames⟩ := hall
  obtain ⟨y, hy, -, hnew, -⟩ := result_resolve_append m hx
  exact ⟨x, y, hx, hnames, hy .zero, hnew⟩

end Mapper

end BindingNames
