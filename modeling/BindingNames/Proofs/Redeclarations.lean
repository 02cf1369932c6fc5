import BindingNames.Proofs.Mapping
import BindingNames.Proofs.Occurrences

/-!
Functions that are declared more than once. Extraction merges declarations with the same symbol
name and type, and the check for duplicates goes by the symbol name alone. Together they refuse
headers exactly when two declarations of one symbol name differ in their types; a declaration that
only comes back is no reason. What the failure names is the first repetition of a symbol name, and
the declaration that it repeats.
-/

namespace BindingNames

open Text (ofString)

/-- The earliest declaration whose symbol name occurred before, and the one it repeats. -/
def IsFirstRepeat (ds : List FunctionDecl) (first second : FunctionDecl) : Prop :=
  ∃ front middle back, ds = front ++ first :: middle ++ second :: back ∧
    first.symbolName = second.symbolName ∧
    ((front ++ first :: middle).map (·.symbolName)).Nodup

/-- Whether cursors at two places declare functions with the same symbol name, and have different
types. -/
def Extractor.Conflict (x : Extractor) (wanted : Text → Bool) (o p : Occurrence) : Prop :=
  ∃ d e, x.Declares wanted o d ∧ x.Declares wanted p e ∧ d.symbolName = e.symbolName ∧
    o.info.typeName ≠ p.info.typeName

/-! ### The check for duplicates -/

namespace Resolver

theorem findDuplicate_eq_some {seen ds : List FunctionDecl} {first second : FunctionDecl}
    (h : findDuplicate seen ds = some (first, second))
    (hseen : (seen.map (·.symbolName)).Nodup) :
    IsFirstRepeat (seen.reverse ++ ds) first second := by
  -- the declarations seen are the front of the list, the latest first
  induction ds generalizing seen with
  | nil => contradiction
  | cons d rest ih =>
      simp only [findDuplicate] at h
      split at h
      · rename_i f hfind
        cases h
        obtain ⟨hname, later, earlier, rfl, -⟩ := List.find?_eq_some_iff_append.mp hfind
        have hreverse : (later ++ first :: earlier).reverse =
            earlier.reverse ++ first :: later.reverse := by simp
        refine ⟨earlier.reverse, later.reverse, rest, ?_, eq_of_beq hname, ?_⟩
        · rw [hreverse]
        · rw [← hreverse, List.map_reverse, List.nodup_reverse]
          exact hseen
      · rename_i hnone
        have hnew : d.symbolName ∉ seen.map (·.symbolName) := by
          intro hmem
          obtain ⟨f, hf, hname⟩ := List.mem_map.mp hmem
          exact List.find?_eq_none.mp hnone f hf (beq_iff_eq.mpr hname)
        have hrest := ih h (List.nodup_cons.mpr ⟨hnew, hseen⟩)
        rwa [List.reverse_cons, List.append_assoc] at hrest

theorem isFirstRepeat_of_checkDuplicates {ds : List FunctionDecl} {e : Failure}
    (h : checkDuplicates ds = .error e) :
    ∃ first second, IsFirstRepeat ds first second ∧
      e = .duplicateSymbol first.symbolName first second := by
  simp only [checkDuplicates] at h
  split at h
  · rename_i first second hfind
    cases h
    exact ⟨first, second, findDuplicate_eq_some hfind (by simp), rfl⟩
  · contradiction

theorem checkDuplicates_eq_error_iff {ds : List FunctionDecl} :
    (∃ e, checkDuplicates ds = .error e) ↔ ¬ (ds.map (·.symbolName)).Nodup := by
  constructor
  · rintro ⟨e, he⟩ hnodup
    rw [checkDuplicates_of_nodup hnodup] at he
    contradiction
  · intro h
    obtain ⟨first, second, hcheck⟩ := checkDuplicates_of_not_nodup h
    exact ⟨_, hcheck⟩

end Resolver

namespace Extractor

/-! ### Functions that are kept -/

theorem firstOfEach_spec (fs : List (FunctionDecl × Text)) :
    (∀ f ∈ firstOfEach fs, f ∈ fs) ∧
      (∀ f ∈ fs, ∃ g ∈ firstOfEach fs, functionKey g = functionKey f) ∧
      ((firstOfEach fs).map functionKey).Nodup := by
  -- what is left once a key is taken out is shorter, but no tail of the list
  induction hn : fs.length using Nat.strong_induction_on generalizing fs with
  | _ n ih =>
      cases fs with
      | nil => simp [firstOfEach]
      | cons f rest =>
          have hlength : (rest.filter fun g => !(functionKey g == functionKey f)).length < n := by
            have := List.length_filter_le (fun g => !(functionKey g == functionKey f)) rest
            rw [List.length_cons] at hn
            omega
          obtain ⟨hsubset, hkeys, hnodup⟩ := ih _ hlength _ rfl
          rw [firstOfEach_cons]
          refine ⟨fun g hg => ?_, fun g hg => ?_, ?_⟩
          · rcases List.mem_cons.mp hg with rfl | hg
            · exact List.mem_cons_self
            · exact List.mem_cons_of_mem _ (List.mem_of_mem_filter (hsubset g hg))
          · by_cases hkey : functionKey g = functionKey f
            · exact ⟨f, List.mem_cons_self, hkey.symm⟩
            · have hrest : g ∈ rest := (List.mem_cons.mp hg).resolve_left fun h => hkey (h ▸ rfl)
              obtain ⟨k, hk, hsame⟩ := hkeys g (List.mem_filter.mpr ⟨hrest, by simpa using hkey⟩)
              exact ⟨k, List.mem_cons_of_mem _ hk, hsame⟩
          · rw [List.map_cons, List.nodup_cons]
            refine ⟨fun hmem => ?_, hnodup⟩
            obtain ⟨g, hg, hkey⟩ := List.mem_map.mp hmem
            have hfilter := (List.mem_filter.mp (hsubset g hg)).2
            simp [hkey] at hfilter

/-- The functions that are kept have different symbol names if a symbol name never comes with two
types. -/
theorem nodup_firstOfEach_iff {fs : List (FunctionDecl × Text)} :
    (((firstOfEach fs).map (·.1)).map (·.symbolName)).Nodup ↔
      ∀ f ∈ fs, ∀ g ∈ fs, f.1.symbolName = g.1.symbolName → f.2 = g.2 := by
  obtain ⟨hsubset, hkeys, hnodup⟩ := firstOfEach_spec fs
  rw [List.map_map]
  constructor
  · intro hnames f hf g hg hname
    obtain ⟨f', hf', hfkey⟩ := hkeys f hf
    obtain ⟨g', hg', hgkey⟩ := hkeys g hg
    have hsame : f' = g' := by
      refine List.inj_on_of_nodup_map hnames hf' hg' ?_
      exact (congrArg Prod.fst hfkey).trans (hname.trans (congrArg Prod.fst hgkey).symm)
    exact (congrArg Prod.snd hfkey).symm.trans (hsame ▸ congrArg Prod.snd hgkey)
  · intro htypes
    refine (List.nodup_map_iff_inj_on hnodup.of_map).mpr fun f hf g hg hname => ?_
    have htype := htypes f (hsubset f hf) g (hsubset g hg) hname
    exact List.inj_on_of_nodup_map hnodup hf hg (Prod.ext hname htype)

/-! ### Headers -/

theorem mem_declaredIn_iff {x : Extractor} {wanted : Text → Bool} {units : List HeaderUnit}
    {f : FunctionDecl × Text} :
    (f ∈ units.flatMap fun u => x.declaredIn wanted u.cursors) ↔
      ∃ o ∈ units.flatMap fun u => Cursor.occurrencesOfAll [] u.cursors,
        x.Declares wanted o f.1 ∧ f.2 = o.info.typeName := by
  simp only [declaredIn, List.mem_flatMap, List.mem_filterMap, ← declared?_eq_some]
  constructor
  · rintro ⟨u, hu, o, ho, hf⟩
    exact ⟨o, ⟨u, hu, ho⟩, hf⟩
  · rintro ⟨o, ⟨u, hu, ho⟩, hf⟩
    exact ⟨u, hu, o, ho, hf⟩

/-- Where the units of headers can be read, there are declarations, and these are refused exactly
when there is a conflict. The failure is about the first repetition of a symbol name. -/
theorem checkDuplicates_extract (parser : Parser) (x : Extractor) (a : Analyzer)
    (headers : List Text) {units : List HeaderUnit}
    (hunits : a.unitsOf parser headers = .ok units) :
    ∃ ds, (x.extract parser a headers).2.result = .ok ds ∧
      ((∃ e, Resolver.checkDuplicates ds.functions = .error e) ↔
        ∃ o ∈ units.flatMap fun u => Cursor.occurrencesOfAll [] u.cursors,
          ∃ p ∈ units.flatMap fun u => Cursor.occurrencesOfAll [] u.cursors,
            x.Conflict (isHeader a (headers.map a.absolutePath)) o p) ∧
      (∀ e, Resolver.checkDuplicates ds.functions = .error e →
        ∃ first second, IsFirstRepeat ds.functions first second ∧
          e = .duplicateSymbol first.symbolName first second) := by
  obtain ⟨ds, hds, hfunctions⟩ := exists_extract parser x hunits
  refine ⟨ds, hds, ?_, fun e he => Resolver.isFirstRepeat_of_checkDuplicates he⟩
  rw [Resolver.checkDuplicates_eq_error_iff, hfunctions, nodup_firstOfEach_iff]
  constructor
  · intro h
    by_contra hnone
    refine h fun f hf g hg hname => ?_
    by_contra htype
    obtain ⟨o, ho, hfdeclares, hftype⟩ := mem_declaredIn_iff.mp hf
    obtain ⟨p, hp, hgdeclares, hgtype⟩ := mem_declaredIn_iff.mp hg
    rw [hftype, hgtype] at htype
    exact hnone ⟨o, ho, p, hp, f.1, g.1, hfdeclares, hgdeclares, hname, htype⟩
  · rintro ⟨o, ho, p, hp, d, e, hd, he, hname, htype⟩ hall
    exact htype (hall (d, o.info.typeName) (mem_declaredIn_iff.mpr ⟨o, ho, hd, rfl⟩)
      (e, p.info.typeName) (mem_declaredIn_iff.mpr ⟨p, hp, he, rfl⟩) hname)

/-- A function that comes back with another type in a header that is read twice. -/
theorem checkDuplicates_extract_conflict :
    let info : Nat → Text → CursorInfo := fun line typeName =>
      ⟨.function, "open", some ⟨"a.h", line, none⟩, true, typeName, "void", [], "", true, false,
        none⟩
    let unit : HeaderUnit :=
      ⟨[.node (info 1 "void (void)") [], .node (info 1 "void (void)") [],
        .node (info 2 "void (int)") []], []⟩
    let parser : Parser := fun _ _ => .parsed unit
    let x : Extractor := ⟨"linux", false⟩
    let a : Analyzer := ⟨.ofText "/src", [], [], false, [], []⟩
    let first : FunctionDecl := x.functionOf (info 1 "void (void)") none none
    let second : FunctionDecl := x.functionOf (info 2 "void (int)") none none
    ∃ ds, (x.extract parser a ["a.h", "a.h"]).2.result = .ok ds ∧
      ds.functions = [first, second] ∧ first ≠ second ∧
        Resolver.checkDuplicates ds.functions = .error (.duplicateSymbol "open" first second) ∧
        IsFirstRepeat ds.functions first second := by
  intro info unit parser x a first second
  have hunits : a.unitsOf parser ["a.h", "a.h"] = .ok [unit, unit] :=
    Analyzer.unitsOf_of_forest (fun _ => unit) (fun _ _ => rfl) (by simp [a]) _
  obtain ⟨ds, hds, hconflict, hfirst⟩ := checkDuplicates_extract parser x a ["a.h", "a.h"] hunits
  have hfunctions : ds.functions = [first, second] := by
    have hextracted : (x.extract parser a ["a.h", "a.h"]).2.result.toOption.map (·.functions) =
        some [first, second] := by
      decide +kernel
    rw [hds] at hextracted
    exact Option.some.inj hextracted
  have hheader : isHeader a ([ofString "a.h", "a.h"].map a.absolutePath) "a.h" := by
    decide +kernel
  have hopen : ∀ line typeName,
      x.Declares (isHeader a ([ofString "a.h", "a.h"].map a.absolutePath))
        ⟨[], info line typeName⟩ (x.functionOf (info line typeName) none none) :=
    fun line typeName => .function rfl hheader (by simp [AreBlocks])
  obtain ⟨e, he⟩ := hconflict.mpr ⟨⟨[], info 1 "void (void)"⟩, by decide +kernel,
    ⟨[], info 2 "void (int)"⟩, by decide +kernel, _, _, hopen _ _, hopen _ _, rfl, by decide⟩
  obtain ⟨f, g, hrepeat, rfl⟩ := hfirst e he
  have hnamed : Failure.duplicateSymbol f.symbolName f g = .duplicateSymbol "open" first second := by
    rw [hfunctions] at he
    exact (Except.error.inj he).symm
  obtain ⟨-, rfl, rfl⟩ := Failure.duplicateSymbol.inj hnamed
  exact ⟨ds, hds, hfunctions, by decide, he, hrepeat⟩

end Extractor

end BindingNames
