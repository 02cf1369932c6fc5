import BindingNames.Proofs.Appending

/-!
Histories of a mapper in use. A mapper remembers nothing but its statistics, and no run depends on
them. A run that is refused, for a setting or for duplicates, leaves them as they were; one that
succeeds sets all but the count of symbols that no library exports, which belongs to the filter. In
each of them every kept declaration is counted once, as a function, a method or a method that is
emitted as a function.
-/

namespace BindingNames

/-! ### Kinds of symbols -/

/-- A symbol is a method, a method that is emitted as a function, or a function. -/
theorem countP_kinds (symbols : List ResolvedSymbol) :
    symbols.countP (·.emittedAsMethod) +
        symbols.countP (fun s => s.role.isMethod && s.emitAsFunction) +
      symbols.countP (fun s => s.role = .function) = symbols.length := by
  induction symbols with
  | nil => rfl
  | cons s rest ih =>
      obtain ⟨decl, base, final, role, emit⟩ := s
      cases role with
      | function =>
          simp [ResolvedSymbol.emittedAsMethod, Role.isMethod] at ih ⊢
          omega
      | method owner =>
          cases emit <;> simp [ResolvedSymbol.emittedAsMethod, Role.isMethod] at ih ⊢ <;> omega

/-- The statistics after a run that succeeds, against those before it. -/
structure Statistics.Records (after before : Statistics) (types : List TypeDecl)
    (ds : List FunctionDecl) (x : Mapped) : Prop where
  types : after.types = types.length
  functions : after.functions = x.symbols.length
  ignored : after.functions + after.ignored = ds.length
  kinds : after.methods + after.methodsAsFunctions +
    x.symbols.countP (fun s => s.role = .function) = after.functions
  methods : after.methods = x.symbols.countP (fun s => s.scope ≠ .functions)
  suffixed : after.suffixed = x.symbols.countP (fun s => s.finalName ≠ s.baseName)
  warnings : after.warnings = x.warnings.length
  notExported : after.notExported = before.notExported

namespace Mapper

inductive Call where
  | resolve (types : List TypeDecl) (ds : List FunctionDecl)
  | filterExported (symbols : List ResolvedSymbol) (exported : List Text)

def call (m : Mapper) : Call → Mapper
  | .resolve types ds => (m.resolve types ds).1
  | .filterExported symbols exported => (m.filterExported symbols exported).1

def after (m : Mapper) (calls : List Call) : Mapper :=
  calls.foldl call m

/-! ### One run -/

theorem records_concluded (m : Mapper) (r : Resolver) (types : List TypeDecl)
    (ds : List FunctionDecl) :
    ((m.counted types ds).concluded (mappedOf ((m.kept ds).map r.resolve))).statistics.Records
      m.statistics types ds (mappedOf ((m.kept ds).map r.resolve)) := by
  have hlength : (mappedOf ((m.kept ds).map r.resolve)).symbols.length = (m.kept ds).length := by
    have hdecls := congrArg List.length (decls_mappedOf r (m.kept ds))
    rwa [List.length_map] at hdecls
  have hle := m.length_kept_le ds
  refine ⟨rfl, hlength.symm, ?_, ?_, ?_, ?_, rfl, rfl⟩
  · simp only [concluded, counted]
    omega
  · exact (countP_kinds _).trans hlength
  · refine List.countP_congr fun s _ => ?_
    rw [ResolvedSymbol.emittedAsMethod_iff]
    cases s.scope <;> simp
  · refine List.countP_congr fun s _ => ?_
    simp [ResolvedSymbol.isSuffixed]

theorem Ends.records {m m' : Mapper} {types : List TypeDecl} {ds : List FunctionDecl} {x : Mapped}
    (h : m.Ends types ds m' (.ok x)) : m'.statistics.Records m.statistics types ds x := by
  cases h with
  | done => exact m.records_concluded _ types ds

theorem records_resolve {m : Mapper} {types : List TypeDecl} {ds : List FunctionDecl} {x : Mapped}
    (hx : (m.resolve types ds).2.result = .ok x) :
    (m.resolve types ds).1.statistics.Records m.statistics types ds x := by
  have hends := m.ends_resolve types ds
  rw [hx] at hends
  exact hends.records

/-- Only a wrong value among the beginnings to trim can end a run after the first statistics. -/
theorem Ends.unchanged {m m' : Mapper} {types : List TypeDecl} {ds : List FunctionDecl}
    {e : Failure} (h : m.Ends types ds m' (.error e))
    (he : (∃ name first second, e = .duplicateSymbol name first second) ∨
      ∃ prefixes : List Text, m.config.trimPrefixes = .list (prefixes.map Value.text)) :
    m' = m := by
  cases h with
  | refused => rfl
  | repeated => rfl
  -- the one end at which counting has begun, and neither kind of failure leads to it
  | @stopped r _ hr _ hbatch =>
      rcases he with ⟨name, first, second, rfl⟩ | ⟨prefixes, hprefixes⟩
      · exact absurd hbatch (r.batch_ne_duplicate (m.kept ds) name first second)
      · have hwrong : r.trimming.wrong = none := by
          obtain ⟨style, trimming, -, htrimming, rfl⟩ := exists_of_resolver_eq_ok hr
          rw [hprefixes] at htrimming
          cases htrimming
          exact Trimming.wrong_ofMembers_texts prefixes
        rw [Resolver.batch_of_wrong_eq_none hwrong] at hbatch
        contradiction

/-! ### Any number of calls -/

theorem call_eq (m : Mapper) (c : Call) :
    m.call c = { m with statistics := (m.call c).statistics } := by
  cases c with
  | resolve types ds => exact (m.ends_resolve types ds).eq_withStatistics
  | filterExported symbols exported => rfl

theorem after_eq (m : Mapper) (calls : List Call) :
    m.after calls = { m with statistics := (m.after calls).statistics } := by
  induction calls generalizing m with
  | nil => rfl
  | cons c rest ih =>
      change (m.call c).after rest = { m with statistics := ((m.call c).after rest).statistics }
      rw [ih, m.call_eq c]

/-- After any calls, a run gives what the new mapper would have given, and its statistics are about
that run alone; a run that fails for duplicates, or where all beginnings to trim are texts for
anything, changes nothing. The filter sets the one count that is its own. -/
theorem after_result_and_statistics {disk : Disk} {c : Configuration} {fresh : Mapper}
    (hfresh : (start disk c).result = .ok fresh) (calls : List Call) :
    (fresh.after calls).config = c ∧
    (∀ types ds, ((fresh.after calls).resolve types ds).2.result =
      (fresh.resolve types ds).2.result) ∧
    (∀ types ds x, ((fresh.after calls).resolve types ds).2.result = .ok x →
      ((fresh.after calls).resolve types ds).1.statistics.Records
        (fresh.after calls).statistics types ds x) ∧
    (∀ types ds e, ((fresh.after calls).resolve types ds).2.result = .error e →
      ((∃ name first second, e = .duplicateSymbol name first second) ∨
        ∃ prefixes : List Text, c.trimPrefixes = .list (prefixes.map Value.text)) →
      ((fresh.after calls).resolve types ds).1 = fresh.after calls) ∧
    (∀ symbols exported, ∃ n,
      ((fresh.after calls).filterExported symbols exported).1 =
        { fresh.after calls with
          statistics := { (fresh.after calls).statistics with notExported := n } } ∧
      ((fresh.after calls).filterExported symbols exported).2.2.length + n = symbols.length) := by
  have hconfig : (fresh.after calls).config = c := by
    rw [after_eq]
    exact (start_eq_ok hfresh).1
  refine ⟨hconfig, fun types ds => ?_, fun types ds x hx => records_resolve hx,
    fun types ds e h he => ?_, fun symbols exported => ?_⟩
  · rw [after_eq, result_resolve_withStatistics]
  · have hends := (fresh.after calls).ends_resolve types ds
    rw [h] at hends
    exact hends.unchanged (hconfig ▸ he)
  · refine ⟨_, rfl, ?_⟩
    have hle := List.length_filter_le (isExported exported) symbols
    simp only [filterExported]
    omega

/-- A run over repeated functions fails between two runs in which names collide and a function is
ignored. -/
theorem after_result_and_statistics_repeated :
    let c : Configuration :=
      { Configuration.unset with
        symMap := [(.text "old", .text "-")], trimPrefixes := .list [.text "lib_"] }
    let ds : List FunctionDecl := [.ofName "lib_open", .ofName "old", .ofName "open"]
    let repeated : List FunctionDecl := [.ofName "open", .ofName "open"]
    ∃ fresh x, (start ⟨[], []⟩ c).result = .ok fresh ∧ (fresh.resolve [] ds).2.result = .ok x ∧
      let m := fresh.after
        [.resolve [] ds, .filterExported x.symbols ["open"], .resolve [] repeated]
      (m.resolve [] repeated).1 = m ∧ (m.resolve [] ds).2.result = .ok x ∧
        (m.resolve [] ds).1.statistics.Records m.statistics [] ds x := by
  intro c ds repeated
  have hstart : ∃ fresh, (start ⟨[], []⟩ c).result = .ok fresh := ⟨_, rfl⟩
  obtain ⟨fresh, hfresh⟩ := hstart
  have hresolve : ∃ x, (fresh.resolve [] ds).2.result = .ok x := by
    cases hfresh
    exact ⟨_, rfl⟩
  have hrepeated : ∃ name first second,
      (fresh.resolve [] repeated).2.result = .error (.duplicateSymbol name first second) := by
    cases hfresh
    exact ⟨_, _, _, rfl⟩
  obtain ⟨x, hx⟩ := hresolve
  obtain ⟨name, first, second, hfail⟩ := hrepeated
  refine ⟨fresh, x, hfresh, hx, ?_⟩
  intro m
  obtain ⟨-, hresult, hrecords, hunchanged, -⟩ := after_result_and_statistics hfresh
    [.resolve [] ds, .filterExported x.symbols ["open"], .resolve [] repeated]
  have hm : (m.resolve [] ds).2.result = .ok x := (hresult [] ds).trans hx
  exact ⟨hunchanged [] repeated _ ((hresult [] repeated).trans hfail) (.inl ⟨_, _, _, rfl⟩), hm,
    hrecords [] ds x hm⟩

end Mapper

end BindingNames
