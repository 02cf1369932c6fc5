import BindingNames.Mapper
import BindingNames.Proofs.GreedyNaming
import Mathlib.Data.List.TakeWhile

/-!
What a mapper computes. A mapper checks for duplicates, leaves out the ignored declarations and
resolves the others one by one while it logs its progress; a resolver in use resolves a whole batch
after a check of its own. Both come down to `Resolver.batch`; `Ends` has the ways in which a run of
the mapper ends, and `result_resolve` what it gives. The check of the mapper sees the ignored
declarations as well, so it fails where the check of the batch alone would not.
-/

namespace BindingNames

namespace Resolver

/-! ### Duplicates -/

theorem findDuplicate_eq_none_iff {seen ds : List FunctionDecl} :
    findDuplicate seen ds = none ↔
      (ds.map (·.symbolName)).Nodup ∧
        ∀ s ∈ seen, ∀ d ∈ ds, s.symbolName ≠ d.symbolName := by
  -- each step makes the declarations seen one more
  induction ds generalizing seen with
  | nil => simp [findDuplicate]
  | cons d rest ih =>
      simp only [findDuplicate]
      split
      · rename_i first hfirst
        have hmem := List.mem_of_find?_eq_some hfirst
        have hname := List.find?_some hfirst
        simp only [reduceCtorEq, false_iff]
        rintro ⟨-, hseen⟩
        exact hseen first hmem d List.mem_cons_self (eq_of_beq hname)
      · rename_i hnone
        rw [List.find?_eq_none] at hnone
        rw [ih, List.map_cons, List.nodup_cons]
        constructor
        · rintro ⟨hnodup, hseen⟩
          refine ⟨⟨?_, hnodup⟩, ?_⟩
          · intro hmem
            obtain ⟨e, he, hname⟩ := List.mem_map.mp hmem
            exact hseen d List.mem_cons_self e he hname.symm
          · intro s hs e he
            rcases List.mem_cons.mp he with rfl | he
            · simpa using hnone s hs
            · exact hseen s (List.mem_cons_of_mem d hs) e he
        · rintro ⟨⟨hd, hnodup⟩, hseen⟩
          refine ⟨hnodup, ?_⟩
          intro s hs e he
          rcases List.mem_cons.mp hs with rfl | hs
          · intro hname
            exact hd (List.mem_map.mpr ⟨e, he, hname.symm⟩)
          · exact hseen s hs e (List.mem_cons_of_mem d he)

theorem checkDuplicates_of_nodup {ds : List FunctionDecl} (h : (ds.map (·.symbolName)).Nodup) :
    checkDuplicates ds = .ok () := by
  have hnone : findDuplicate [] ds = none := findDuplicate_eq_none_iff.mpr ⟨h, by simp⟩
  simp only [checkDuplicates, hnone]
  rfl

theorem checkDuplicates_of_not_nodup {ds : List FunctionDecl}
    (h : ¬ (ds.map (·.symbolName)).Nodup) :
    ∃ first second,
      checkDuplicates ds = .error (.duplicateSymbol first.symbolName first second) := by
  cases hfind : findDuplicate [] ds with
  | none => exact absurd (findDuplicate_eq_none_iff.mp hfind).1 h
  | some pair =>
      refine ⟨pair.1, pair.2, ?_⟩
      simp only [checkDuplicates, hfind]
      rfl

/-! ### Batches of declarations -/

/-- The resolutions of a batch, or what goes wrong with the first declaration that cannot be
resolved. -/
def batch (r : Resolver) (ds : List FunctionDecl) : Except Failure (List Resolution) :=
  match ds.findSome? r.fault? with
  | some e => .error e
  | none => .ok (ds.map r.resolve)

theorem batch_cons (r : Resolver) (d : FunctionDecl) (rest : List FunctionDecl) :
    r.batch (d :: rest) = do
      let x ← r.resolve? d
      return x :: (← r.batch rest) := by
  cases hd : r.fault? d with
  | some e => simp [batch, resolve?, hd, bind, Except.bind]
  | none =>
      cases hrest : rest.findSome? r.fault? with
      | some e => simp [batch, resolve?, hd, hrest, bind, Except.bind]
      | none => simp [batch, resolve?, hd, hrest, bind, Except.bind, pure, Except.pure]

theorem resolveUpTo_eq (r : Resolver) (ds : List FunctionDecl) :
    r.resolveUpTo ds =
      ((ds.takeWhile fun d => (r.fault? d).isNone).map r.resolve, ds.findSome? r.fault?) := by
  induction ds with
  | nil => rfl
  | cons d rest ih =>
      cases hd : r.fault? d with
      | some e => simp [resolveUpTo, resolve?, hd]
      | none => simp [resolveUpTo, resolve?, hd, ih]

theorem resolveUpTo_of_findSome?_eq_none {r : Resolver} {ds : List FunctionDecl}
    (h : ds.findSome? r.fault? = none) : r.resolveUpTo ds = (ds.map r.resolve, none) := by
  have hall : ∀ d ∈ ds, (r.fault? d).isNone := by
    intro d hd
    rw [List.findSome?_eq_none_iff.mp h d hd]
    rfl
  rw [resolveUpTo_eq, List.takeWhile_eq_self_iff.mpr hall, h]

theorem batch_eq_ok_iff {r : Resolver} {ds : List FunctionDecl} {xs : List Resolution} :
    r.batch ds = .ok xs ↔ (∀ d ∈ ds, r.fault? d = none) ∧ ds.map r.resolve = xs := by
  rw [← List.findSome?_eq_none_iff]
  cases h : ds.findSome? r.fault? <;> simp [batch, h]

theorem batch_eq_error {r : Resolver} {ds : List FunctionDecl} {e : Failure}
    (h : r.batch ds = .error e) : ∃ d ∈ ds, r.fault? d = some e := by
  simp only [batch] at h
  split at h
  · rename_i hsome
    cases h
    exact List.exists_of_findSome?_eq_some hsome
  · contradiction

theorem batch_of_wrong_eq_none {r : Resolver} (h : r.trimming.wrong = none)
    (ds : List FunctionDecl) : r.batch ds = .ok (ds.map r.resolve) := by
  have hnone : ds.findSome? r.fault? = none := by
    rw [List.findSome?_eq_none_iff]
    intro d _
    simp only [fault?, Trimming.fault?_of_wrong_eq_none h]
    split <;> rfl
  simp [batch, hnone]

/-- All that goes wrong with a declaration is a value in the wrong place among the beginnings to
trim. -/
theorem fault?_eq_some {r : Resolver} {d : FunctionDecl} {e : Failure}
    (h : r.fault? d = some e) : ∃ fault, e = .kind fault := by
  simp only [fault?, Trimming.fault?] at h
  split at h
  · split at h
    · contradiction
    · obtain ⟨fault, -, rfl⟩ := Option.map_eq_some_iff.mp h
      exact ⟨fault, rfl⟩
  · contradiction

/-- The check for duplicates is not repeated in the middle of a batch. -/
theorem batch_ne_duplicate (r : Resolver) (ds : List FunctionDecl) (name : Text)
    (first second : FunctionDecl) :
    r.batch ds ≠ .error (.duplicateSymbol name first second) := by
  intro h
  obtain ⟨d, -, hfault⟩ := batch_eq_error h
  obtain ⟨fault, hkind⟩ := fault?_eq_some hfault
  contradiction

end Resolver

namespace ResolverSession

theorem resolveAll_of_nodup (s : ResolverSession) {ds : List FunctionDecl}
    (h : (ds.map (·.symbolName)).Nodup) :
    s.resolveAll ds =
      ({ s with
          warnings := (s.resolver.resolveUpTo ds).1.filterMap (·.warning) },
        (s.resolver.batch ds).map fun xs => xs.map (·.symbol)) := by
  cases hfault : ds.findSome? s.resolver.fault? with
  | some e =>
      simp only [resolveAll, Resolver.checkDuplicates_of_nodup h, Resolver.resolveUpTo_eq,
        Resolver.batch, hfault]
      rfl
  | none =>
      simp only [resolveAll, Resolver.checkDuplicates_of_nodup h,
        Resolver.resolveUpTo_of_findSome?_eq_none hfault, Resolver.batch, hfault]
      rfl

end ResolverSession

/-- A batch resolved by a resolver that has not been used, and the symbols of it named. -/
def Resolver.namedBatch (r : Resolver) (ds : List FunctionDecl) : Except Failure Mapped :=
  let (session, symbols) := (ResolverSession.start r).resolveAll ds
  symbols.map fun xs => ⟨disambiguate xs, session.warnings⟩

theorem Resolver.namedBatch_of_nodup (r : Resolver) {ds : List FunctionDecl}
    (h : (ds.map (·.symbolName)).Nodup) :
    r.namedBatch ds = (r.batch ds).map Mapper.mappedOf := by
  simp only [namedBatch, ResolverSession.resolveAll_of_nodup _ h, ResolverSession.start]
  cases hx : r.batch ds with
  | error e => rfl
  | ok xs =>
      obtain ⟨hfault, rfl⟩ := batch_eq_ok_iff.mp hx
      rw [resolveUpTo_of_findSome?_eq_none (List.findSome?_eq_none_iff.mpr hfault)]
      rfl

namespace Mapper

theorem result_resolveEach (r : Resolver) (p : Progress) (ds : List FunctionDecl) :
    (resolveEach r p ds).result = r.batch ds := by
  induction ds generalizing p with
  | nil => rfl
  | cons d rest ih =>
      rw [Resolver.batch_cons]
      simp only [resolveEach, Logged.result_bind, Logged.result_lift, Logged.result_write,
        Logged.result_pure, ih]
      rfl

/-- The ways in which a run ends, with the mapper after it. Nothing is counted before the settings
are read and the duplicates checked. -/
inductive Ends (m : Mapper) (types : List TypeDecl) (ds : List FunctionDecl) :
    Mapper → Except Failure Mapped → Prop where
  | refused {e : Failure} (hr : m.resolver types = .error e) : Ends m types ds m (.error e)
  | repeated {r : Resolver} {e : Failure} (hr : m.resolver types = .ok r)
      (hcheck : Resolver.checkDuplicates ds = .error e) : Ends m types ds m (.error e)
  | stopped {r : Resolver} {e : Failure} (hr : m.resolver types = .ok r)
      (hcheck : Resolver.checkDuplicates ds = .ok ())
      (hbatch : r.batch (m.kept ds) = .error e) :
      Ends m types ds (m.counted types ds) (.error e)
  | done {r : Resolver} (hr : m.resolver types = .ok r)
      (hcheck : Resolver.checkDuplicates ds = .ok ())
      (hbatch : r.batch (m.kept ds) = .ok ((m.kept ds).map r.resolve)) :
      Ends m types ds ((m.counted types ds).concluded (mappedOf ((m.kept ds).map r.resolve)))
        (.ok (mappedOf ((m.kept ds).map r.resolve)))

theorem ends_resolve (m : Mapper) (types : List TypeDecl) (ds : List FunctionDecl) :
    Ends m types ds (m.resolve types ds).1 (m.resolve types ds).2.result := by
  cases hr : m.resolver types with
  | error e =>
      simp only [resolve, hr]
      exact .refused hr
  | ok r =>
      cases hcheck : Resolver.checkDuplicates ds with
      | error e =>
          simp only [resolve, hr, hcheck]
          exact .repeated hr hcheck
      | ok u =>
          have heach := result_resolveEach r
            (Progress.start logger (m.kept ds).length Progress.usualInterval) (m.kept ds)
          cases hbatch : r.batch (m.kept ds) with
          | error e =>
              rw [hbatch] at heach
              simp only [resolve, hr, hcheck, heach]
              exact .stopped hr hcheck hbatch
          | ok xs =>
              rw [hbatch] at heach
              simp only [resolve, hr, hcheck, heach]
              obtain ⟨-, rfl⟩ := Resolver.batch_eq_ok_iff.mp hbatch
              exact .done hr hcheck hbatch

/-- A run changes nothing but the statistics. -/
theorem Ends.eq_withStatistics {m : Mapper} {types : List TypeDecl} {ds : List FunctionDecl}
    {m' : Mapper} {x : Except Failure Mapped} (h : m.Ends types ds m' x) :
    m' = { m with statistics := m'.statistics } := by
  cases h <;> rfl

/-- What a mapper computes, without its log and its statistics. -/
theorem result_resolve (m : Mapper) (types : List TypeDecl) (ds : List FunctionDecl) :
    (m.resolve types ds).2.result = do
      let r ← m.resolver types
      Resolver.checkDuplicates ds
      return mappedOf (← r.batch (m.kept ds)) := by
  have hends := m.ends_resolve types ds
  generalize (m.resolve types ds).1 = m', (m.resolve types ds).2.result = x at hends ⊢
  cases hends with
  | refused hr => rw [hr]; rfl
  | repeated hr hcheck => rw [hr, hcheck]; rfl
  | stopped hr hcheck hbatch =>
      rw [hr, hcheck]
      simp only [bind, Except.bind, hbatch]
  | done hr hcheck hbatch =>
      rw [hr, hcheck]
      simp only [bind, Except.bind, hbatch]
      rfl

/-- Mappers with the same settings for names have resolvers that differ in the rest, or none. -/
theorem resolver_eq_map {m m' : Mapper} {types types' : List TypeDecl} {f : Resolver → Resolver}
    (hstyle : m'.config.nameStyle = m.config.nameStyle)
    (htrimming : m'.config.trimPrefixes = m.config.trimPrefixes)
    (hf : ∀ style trimming,
      f ⟨types, m.table, trimming, style, m.config.receiverCheck.holds⟩ =
        ⟨types', m'.table, trimming, style, m'.config.receiverCheck.holds⟩) :
    m'.resolver types' = (m.resolver types).map f := by
  simp only [resolver, hstyle, htrimming]
  cases NameStyle.ofSetting m.config.nameStyle with
  | error e => rfl
  | ok style =>
      cases Trimming.ofValue m.config.trimPrefixes with
      | error e => rfl
      | ok trimming => exact congrArg Except.ok (hf style trimming).symm

theorem resolveEach_congr {r r' : Resolver} {ds : List FunctionDecl}
    (h : ∀ d ∈ ds, r'.resolve? d = r.resolve? d) (p : Progress) :
    resolveEach r' p ds = resolveEach r p ds := by
  induction ds generalizing p with
  | nil => rfl
  | cons d rest ih =>
      obtain ⟨hd, hrest⟩ := List.forall_mem_cons.mp h
      simp only [resolveEach, hd, ih hrest]

/-- Two mappers that keep the same declarations, and whose resolvers make the same of them, run in
the same way up to their statistics. -/
theorem snd_resolve_congr {m m' : Mapper} {types types' : List TypeDecl}
    {f : Resolver → Resolver} (hr : m'.resolver types' = (m.resolver types).map f)
    (hf : ∀ r, m.resolver types = .ok r → ∀ d, (f r).resolve? d = r.resolve? d)
    {ds : List FunctionDecl} (hkept : m'.kept ds = m.kept ds) :
    (m'.resolve types' ds).2 = (m.resolve types ds).2 := by
  cases hm : m.resolver types with
  | error e =>
      have hm' : m'.resolver types' = .error e := by rw [hr, hm]; rfl
      simp only [resolve, hm, hm']
  | ok r =>
      have hm' : m'.resolver types' = .ok (f r) := by rw [hr, hm]; rfl
      cases hcheck : Resolver.checkDuplicates ds with
      | error e => simp only [resolve, hm, hm', hcheck]
      | ok _ =>
          have heach : ∀ p, resolveEach (f r) p (m.kept ds) = resolveEach r p (m.kept ds) :=
            resolveEach_congr fun d _ => hf r hm d
          simp only [resolve, hm, hm', hcheck, hkept, heach]
          split <;> rfl

/-- There is one symbol for each declaration. -/
theorem decls_mappedOf (r : Resolver) (ds : List FunctionDecl) :
    (mappedOf (ds.map r.resolve)).symbols.map (·.decl) = ds := by
  simp only [mappedOf]
  rw [(namedGreedily_disambiguate _).map_eq fun _ _ => rfl, List.map_map, List.map_map]
  exact List.map_id'' r.resolve_decl ds

/-- A symbol differs from what its declaration resolves to in the final name only. -/
theorem eq_withFinalName_of_mem {r : Resolver} {ds : List FunctionDecl} {s : ResolvedSymbol}
    (hs : s ∈ (mappedOf (ds.map r.resolve)).symbols) :
    s.decl ∈ ds ∧ s = (r.resolve s.decl).symbol.withFinalName s.finalName := by
  have hnamed := namedGreedily_disambiguate ((ds.map r.resolve).map (·.symbol))
  obtain ⟨i, hi, rfl⟩ := List.getElem_of_mem hs
  have hd : i < ds.length := by simpa [mappedOf] using hi
  have hframe := hnamed.frame i (by simpa using hd) hi
  rw [List.getElem_map, List.getElem_map] at hframe
  have hdecl : (mappedOf (ds.map r.resolve)).symbols[i].decl = ds[i] := by
    change (disambiguate _)[i].decl = _
    rw [hframe]
    exact r.resolve_decl ds[i]
  rw [hdecl]
  exact ⟨List.getElem_mem hd, hframe⟩

theorem resolver_eq_ok {m : Mapper} {style : NameStyle} {trimming : Trimming}
    (hstyle : NameStyle.ofSetting m.config.nameStyle = .ok style)
    (htrimming : Trimming.ofValue m.config.trimPrefixes = .ok trimming) (types : List TypeDecl) :
    m.resolver types =
      .ok ⟨types, m.table, trimming, style, m.config.receiverCheck.holds⟩ := by
  simp only [resolver, hstyle, htrimming]
  rfl

theorem resolver_eq_error {m : Mapper} {style : NameStyle} {e : Failure}
    (hstyle : NameStyle.ofSetting m.config.nameStyle = .ok style)
    (htrimming : Trimming.ofValue m.config.trimPrefixes = .error e) (types : List TypeDecl) :
    m.resolver types = .error e := by
  simp only [resolver, hstyle, htrimming]
  rfl

theorem result_resolve_of_error {m : Mapper} {types : List TypeDecl} {e : Failure}
    (h : m.resolver types = .error e) (ds : List FunctionDecl) :
    (m.resolve types ds).2.result = .error e := by
  rw [result_resolve, h]
  rfl

theorem result_resolve_of_nodup {m : Mapper} {types : List TypeDecl} {r : Resolver}
    (hr : m.resolver types = .ok r) {ds : List FunctionDecl}
    (hnodup : (ds.map (·.symbolName)).Nodup) :
    (m.resolve types ds).2.result = (r.batch (m.kept ds)).map mappedOf := by
  rw [result_resolve, hr, Resolver.checkDuplicates_of_nodup hnodup]
  cases h : r.batch (m.kept ds) <;> simp only [bind, Except.bind, h] <;> rfl

theorem result_resolve_of_not_nodup {m : Mapper} {types : List TypeDecl} {r : Resolver}
    (hr : m.resolver types = .ok r) {ds : List FunctionDecl}
    (hnodup : ¬ (ds.map (·.symbolName)).Nodup) :
    ∃ first second, (m.resolve types ds).2.result =
      .error (.duplicateSymbol first.symbolName first second) := by
  obtain ⟨first, second, hdup⟩ := Resolver.checkDuplicates_of_not_nodup hnodup
  refine ⟨first, second, ?_⟩
  rw [result_resolve, hr, hdup]
  rfl

/-- A run succeeds if it sees no duplicates and nothing goes wrong with a kept declaration; its
symbols and warnings are those of the kept declarations. -/
theorem result_resolve_eq_ok_iff {m : Mapper} {types : List TypeDecl} {ds : List FunctionDecl}
    {x : Mapped} :
    (m.resolve types ds).2.result = .ok x ↔
      ∃ r, m.resolver types = .ok r ∧ (ds.map (·.symbolName)).Nodup ∧
        (∀ d ∈ m.kept ds, r.fault? d = none) ∧ mappedOf ((m.kept ds).map r.resolve) = x := by
  cases hr : m.resolver types with
  | error e => simp [result_resolve_of_error hr]
  | ok r =>
      by_cases hnodup : (ds.map (·.symbolName)).Nodup
      · rw [result_resolve_of_nodup hr hnodup]
        constructor
        · intro h
          cases hx : r.batch (m.kept ds) with
          | error e => rw [hx] at h; contradiction
          | ok xs =>
              obtain ⟨hfault, rfl⟩ := Resolver.batch_eq_ok_iff.mp hx
              rw [hx] at h
              exact ⟨r, rfl, hnodup, hfault, Except.ok.inj h⟩
        · rintro ⟨_, hr', -, hfault, rfl⟩
          cases hr'
          rw [Resolver.batch_eq_ok_iff.mpr ⟨hfault, rfl⟩]
          rfl
      · obtain ⟨first, second, hdup⟩ := result_resolve_of_not_nodup hr hnodup
        simp [hdup, hnodup]

theorem result_resolve_eq_ok {m : Mapper} {types : List TypeDecl} {ds : List FunctionDecl}
    {x : Mapped} (h : (m.resolve types ds).2.result = .ok x) :
    ∃ r, m.resolver types = .ok r ∧ (ds.map (·.symbolName)).Nodup ∧
      x = mappedOf ((m.kept ds).map r.resolve) := by
  obtain ⟨r, hr, hnodup, -, rfl⟩ := result_resolve_eq_ok_iff.mp h
  exact ⟨r, hr, hnodup, rfl⟩

theorem kept_subset (m : Mapper) (ds : List FunctionDecl) : m.kept ds ⊆ ds :=
  List.filter_sublist.subset

/-- Ignored declarations count among the duplicates, and for nothing else. -/
theorem nodup_kept (m : Mapper) {ds : List FunctionDecl} (h : (ds.map (·.symbolName)).Nodup) :
    ((m.kept ds).map (·.symbolName)).Nodup :=
  h.sublist (List.filter_sublist.map _)

/-! ### Mappers in use -/

/-- Mappers made from a configuration, and then used for any number of runs and filters. -/
inductive InUse : Mapper → Prop where
  | start {d : Disk} {c : Configuration} {m : Mapper} (h : (start d c).result = .ok m) : InUse m
  | resolve {m : Mapper} (h : InUse m) (types : List TypeDecl) (ds : List FunctionDecl) :
      InUse (m.resolve types ds).1
  | filterExported {m : Mapper} (h : InUse m) (symbols : List ResolvedSymbol)
      (exported : List Text) : InUse (m.filterExported symbols exported).1

theorem start_eq_ok {d : Disk} {c : Configuration} {m : Mapper}
    (h : (start d c).result = .ok m) :
    m.config = c ∧ (loadRules d c).result = .ok m.rules ∧
      RuleTable.ofDrafts m.rules.drafts = .ok m.table := by
  simp only [start, Logged.tell, Logged.result_bind, Logged.result_lift, Logged.result_write] at h
  cases hrules : (loadRules d c).result with
  | error e => rw [hrules] at h; contradiction
  | ok rules =>
      rw [hrules] at h
      change RuleTable.ofDrafts rules.drafts >>= _ = _ at h
      cases htable : RuleTable.ofDrafts rules.drafts with
      | error e => rw [htable] at h; contradiction
      | ok table =>
          rw [htable] at h
          cases h
          exact ⟨rfl, rfl, htable⟩

theorem table_resolve (m : Mapper) (types : List TypeDecl) (ds : List FunctionDecl) :
    (m.resolve types ds).1.table = m.table := by
  rw [(m.ends_resolve types ds).eq_withStatistics]

/-- The table of a mapper is built from drafts, and no use changes it. -/
theorem InUse.exists_drafts {m : Mapper} (hm : m.InUse) :
    ∃ drafts, RuleTable.ofDrafts drafts = .ok m.table := by
  induction hm with
  | start h => exact ⟨_, (start_eq_ok h).2.2⟩
  | resolve _ types ds ih =>
      rw [table_resolve]
      exact ih
  | filterExported _ symbols exported ih => exact ih

theorem exists_of_resolver_eq_ok {m : Mapper} {types : List TypeDecl} {r : Resolver}
    (h : m.resolver types = .ok r) :
    ∃ style trimming, NameStyle.ofSetting m.config.nameStyle = .ok style ∧
      Trimming.ofValue m.config.trimPrefixes = .ok trimming ∧
      r = ⟨types, m.table, trimming, style, m.config.receiverCheck.holds⟩ := by
  simp only [resolver] at h
  cases hstyle : NameStyle.ofSetting m.config.nameStyle with
  | error e => rw [hstyle] at h; contradiction
  | ok style =>
      cases ht : Trimming.ofValue m.config.trimPrefixes with
      | error e => rw [hstyle, ht] at h; contradiction
      | ok trimming =>
          rw [hstyle, ht] at h
          cases h
          exact ⟨style, trimming, rfl, rfl, rfl⟩

theorem resolver_eq_fields {m : Mapper} {types : List TypeDecl} {r : Resolver}
    (h : m.resolver types = .ok r) : r.types = types ∧ r.table = m.table := by
  obtain ⟨style, trimming, -, -, rfl⟩ := exists_of_resolver_eq_ok h
  exact ⟨rfl, rfl⟩

end Mapper

namespace Trimming

theorem wrong_ofMembers_texts (prefixes : List Text) :
    (ofMembers (prefixes.map Value.text)).wrong = .none := by
  induction prefixes with
  | nil => rfl
  | cons s rest ih =>
      cases s with
      | nil => exact ih
      | cons c cs => exact ih

end Trimming

namespace Mapper

/-- A mapper agrees with a new resolver that gets the kept declarations as one batch, after which
the symbols are named. The check for duplicates is about all declarations. Where it passes, the
symbols and warnings, or the failure, are those of the batch: one symbol for each kept declaration,
and nothing that depends on ignored ones. Beginnings to trim that are no list leave no resolver to
compare with, and those that are texts let no declaration fail. -/
theorem result_resolve_eq_namedBatch (m : Mapper) (types : List TypeDecl)
    (ds : List FunctionDecl) {style : NameStyle}
    (hstyle : NameStyle.ofSetting m.config.nameStyle = .ok style) :
    (∀ e, Trimming.ofValue m.config.trimPrefixes = .error e →
      (m.resolve types ds).2.result = .error e) ∧
    (∀ trimming, Trimming.ofValue m.config.trimPrefixes = .ok trimming →
      ((∃ name first second,
          (m.resolve types ds).2.result = .error (.duplicateSymbol name first second)) ↔
        ¬ (ds.map (·.symbolName)).Nodup) ∧
      ((ds.map (·.symbolName)).Nodup →
        (m.resolve types ds).2.result =
          Resolver.namedBatch ⟨types, m.table, trimming, style, m.config.receiverCheck.holds⟩
            (m.kept ds))) ∧
    (∀ prefixes : List Text, m.config.trimPrefixes = .list (prefixes.map Value.text) →
      (ds.map (·.symbolName)).Nodup → ∃ x, (m.resolve types ds).2.result = .ok x) ∧
    (∀ x, (m.resolve types ds).2.result = .ok x →
      x.symbols.map (·.decl) = m.kept ds ∧
      ∃ r, m.resolver types = .ok r ∧
        x.warnings = (m.kept ds).filterMap fun d => (r.resolve d).warning) ∧
    (∀ es : List FunctionDecl, (ds.map (·.symbolName)).Nodup → (es.map (·.symbolName)).Nodup →
      m.kept es = m.kept ds →
      (m.resolve types es).2.result = (m.resolve types ds).2.result) := by
  refine ⟨fun e he => ?_, fun trimming ht => ⟨⟨?_, fun hdup => ?_⟩, fun hnodup => ?_⟩,
    fun prefixes hp hnodup => ?_, fun x hx => ⟨?_, ?_⟩, fun es hds hes hkept => ?_⟩
  · exact result_resolve_of_error (resolver_eq_error hstyle he types) ds
  · rintro ⟨name, first, second, hfail⟩ hnodup
    rw [result_resolve_of_nodup (resolver_eq_ok hstyle ht types) hnodup] at hfail
    -- what fails in a batch is never the check for duplicates
    cases hbatch : Resolver.batch _ (m.kept ds) with
    | ok xs => rw [hbatch] at hfail; contradiction
    | error e =>
        obtain ⟨d, -, hd⟩ := Resolver.batch_eq_error hbatch
        obtain ⟨fault, rfl⟩ := Resolver.fault?_eq_some hd
        rw [hbatch] at hfail
        cases hfail
  · obtain ⟨first, second, hfail⟩ :=
      result_resolve_of_not_nodup (resolver_eq_ok hstyle ht types) hdup
    exact ⟨_, _, _, hfail⟩
  · rw [result_resolve_of_nodup (resolver_eq_ok hstyle ht types) hnodup,
      Resolver.namedBatch_of_nodup _ (m.nodup_kept hnodup)]
  · have ht : Trimming.ofValue m.config.trimPrefixes =
        .ok (Trimming.ofMembers (prefixes.map Value.text)) := by
      rw [hp]
      rfl
    rw [result_resolve_of_nodup (resolver_eq_ok hstyle ht types) hnodup,
      Resolver.batch_of_wrong_eq_none (Trimming.wrong_ofMembers_texts prefixes)]
    exact ⟨_, rfl⟩
  · obtain ⟨r, -, -, rfl⟩ := result_resolve_eq_ok hx
    simp only [mappedOf]
    rw [(namedGreedily_disambiguate _).map_eq (fun _ _ => rfl), List.map_map, List.map_map]
    exact List.map_id'' (fun d => r.resolve_decl d) _
  · obtain ⟨r, hr, -, rfl⟩ := result_resolve_eq_ok hx
    refine ⟨r, hr, ?_⟩
    simp only [mappedOf]
    rw [List.filterMap_map]
    rfl
  · cases hr : m.resolver types with
    | error e => rw [result_resolve_of_error hr, result_resolve_of_error hr]
    | ok r =>
        rw [result_resolve_of_nodup hr hds, result_resolve_of_nodup hr hes, hkept]

end Mapper

/-- The configuration in which no setting is given. -/
def Configuration.unset : Configuration where
  name := .text ""
  headers := .list []
  includePaths := []
  compilerArgs := []
  cplusplus := .bool false
  parserPath := .null
  libs := .text ""
  trimPrefixes := .list []
  symMap := []
  rulesSource := .map []
  rules := .list []
  nameStyle := .text "none"
  receiverCheck := .bool false
  output := .text "llcppg.symb.json"
  report := .null
  logLevel := .text "INFO"
  logFile := .null
  baseDir := .text "."

/-- Two functions collide once their prefix is trimmed and their names are styled; a third one is
ignored. -/
theorem Mapper.result_resolve_eq_namedBatch_collision :
    let c : Configuration :=
      { Configuration.unset with
        nameStyle := .text "camel", trimPrefixes := .list [.text "lib_"] }
    let m : Mapper := ⟨c, .empty, ⟨[], [.text "libOpen"]⟩, .zero⟩
    let ds : List FunctionDecl := [.ofName "lib_open", .ofName "libOpen", .ofName "open"]
    NameStyle.ofSetting c.nameStyle = .ok .camel ∧ (ds.map (·.symbolName)).Nodup ∧
      ∃ x, (m.resolve [] ds).2.result = .ok x ∧
        x.symbols.map (·.decl) = [.ofName "lib_open", .ofName "open"] := by
  intro c m ds
  have hstyle : NameStyle.ofSetting c.nameStyle = .ok .camel := rfl
  have hnodup : (ds.map (·.symbolName)).Nodup := by decide
  obtain ⟨-, -, hsucceeds, hdecls, -⟩ := result_resolve_eq_namedBatch m [] ds hstyle
  obtain ⟨x, hx⟩ := hsucceeds ["lib_"] rfl hnodup
  exact ⟨hstyle, hnodup, x, hx, (hdecls x hx).1⟩

end BindingNames
