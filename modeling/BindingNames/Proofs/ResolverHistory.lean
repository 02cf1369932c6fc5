import BindingNames.Proofs.Mapping
import BindingNames.Proofs.ResolvedRoles

/-!
Histories of a resolver in use. The warnings are all that it remembers, and no answer depends on
them. Each declaration that is resolved adds its own warnings, and a batch that turns out to be free
of duplicates drops the earlier ones first. So the warnings after any requests are those about the
declarations resolved since the last such batch, and a request that meets duplicates has no effect.
-/

namespace BindingNames

namespace ResolverSession

inductive Call where
  | resolve (d : FunctionDecl)
  | resolveAll (ds : List FunctionDecl)
  | checkDuplicates (ds : List FunctionDecl)

/-- The session after a call, and the symbols in the answer. -/
def call (s : ResolverSession) : Call → ResolverSession × Except Failure (List ResolvedSymbol)
  | .resolve d => ((s.resolve d).1, (s.resolve d).2.map fun symbol => [symbol])
  | .resolveAll ds => s.resolveAll ds
  | .checkDuplicates ds => (s, (Resolver.checkDuplicates ds).map fun _ => [])

def after (s : ResolverSession) (calls : List Call) : ResolverSession :=
  calls.foldl (fun s c => (s.call c).1) s

namespace Call

/-- Whether a call resolves a batch without duplicates. -/
def StartsAnew : Call → Prop
  | .resolveAll ds => (ds.map (·.symbolName)).Nodup
  | _ => False

/-- The declarations that are resolved in a call. A batch with duplicates is not begun, and another
ends at the first declaration that fails, which has no warnings. -/
def resolved (r : Resolver) : Call → List FunctionDecl
  | .resolve d => [d]
  | .resolveAll ds =>
    if (ds.map (·.symbolName)).Nodup then ds.takeWhile fun d => (r.fault? d).isNone else []
  | .checkDuplicates _ => []

/-- The calls since the last batch without duplicates, which is the first of them, or all calls if
there was no such batch. -/
inductive Recent : List Call → List Call → Prop where
  | all {calls : List Call} (h : ∀ c ∈ calls, ¬ c.StartsAnew) : Recent calls calls
  | batch {earlier : List Call} {c : Call} {later : List Call} (hc : c.StartsAnew)
      (hlater : ∀ c ∈ later, ¬ c.StartsAnew) : Recent (earlier ++ c :: later) (c :: later)

theorem exists_recent (calls : List Call) : ∃ recent, Recent calls recent := by
  induction calls with
  | nil => exact ⟨[], .all (by simp)⟩
  | cons c rest ih =>
      obtain ⟨recent, hrecent⟩ := ih
      cases hrecent with
      -- whatever comes first, a later batch is still the last one
      | @batch earlier b later hb hlater =>
          rw [← List.cons_append]
          exact ⟨b :: later, .batch hb hlater⟩
      | all hrest =>
          by_cases hc : c.StartsAnew
          · rw [← List.nil_append (c :: rest)]
            exact ⟨c :: rest, .batch hc hrest⟩
          · exact ⟨c :: rest, .all (List.forall_mem_cons.mpr ⟨hc, hrest⟩)⟩

end Call

def warningsAbout (r : Resolver) (d : FunctionDecl) : List Warning :=
  ((start r).resolve d).1.warnings

theorem warningsAbout_eq (r : Resolver) (d : FunctionDecl) :
    warningsAbout r d = (r.resolve d).warning.toList := by
  rw [warningsAbout, fst_resolve]
  rfl

/-! ### One call -/

theorem snd_resolveAll (s : ResolverSession) (ds : List FunctionDecl) :
    (s.resolveAll ds).2 = ((start s.resolver).resolveAll ds).2 := by
  simp only [resolveAll, start]
  cases Resolver.checkDuplicates ds with
  | error e => rfl
  | ok u => split <;> rfl

theorem resolveAll_of_not_nodup (s : ResolverSession) {ds : List FunctionDecl}
    (h : ¬ (ds.map (·.symbolName)).Nodup) : (s.resolveAll ds).1 = s := by
  obtain ⟨first, second, hdup⟩ := Resolver.checkDuplicates_of_not_nodup h
  simp only [resolveAll, hdup]

theorem fst_resolveAll_of_nodup (s : ResolverSession) {ds : List FunctionDecl}
    (h : (ds.map (·.symbolName)).Nodup) :
    (s.resolveAll ds).1 =
      { s with
        warnings := (Call.resolved s.resolver (.resolveAll ds)).flatMap
          (warningsAbout s.resolver) } := by
  rw [resolveAll_of_nodup s h, Resolver.resolveUpTo_eq]
  simp only [Call.resolved, if_pos h, funext (warningsAbout_eq s.resolver), List.filterMap_map]
  rw [List.filterMap_eq_flatMap_toList]
  rfl

@[simp] theorem resolver_call (s : ResolverSession) (c : Call) :
    (s.call c).1.resolver = s.resolver := by
  cases c with
  | resolve d => rw [call, fst_resolve]
  | resolveAll ds =>
      rw [call]
      by_cases h : (ds.map (·.symbolName)).Nodup
      · rw [fst_resolveAll_of_nodup s h]
      · rw [resolveAll_of_not_nodup s h]
  | checkDuplicates ds => rfl

/-- A batch without duplicates forgets the earlier warnings. -/
theorem warnings_call_of_startsAnew (s : ResolverSession) {c : Call} (h : c.StartsAnew) :
    (s.call c).1.warnings = (c.resolved s.resolver).flatMap (warningsAbout s.resolver) := by
  cases c with
  | resolveAll ds => rw [call, fst_resolveAll_of_nodup s h]
  | _ => contradiction

theorem warnings_call_of_not_startsAnew (s : ResolverSession) {c : Call} (h : ¬ c.StartsAnew) :
    (s.call c).1.warnings =
      s.warnings ++ (c.resolved s.resolver).flatMap (warningsAbout s.resolver) := by
  cases c with
  | resolve d =>
      rw [call, fst_resolve]
      simp [Call.resolved, warningsAbout_eq]
  | resolveAll ds =>
      rw [call, resolveAll_of_not_nodup s h]
      simp [Call.resolved, show ¬ (ds.map (·.symbolName)).Nodup from h]
  | checkDuplicates ds => simp [call, Call.resolved]

/-- A call that fails because of duplicates leaves the session as it was. -/
theorem fst_call_of_duplicate (s : ResolverSession) {c : Call} {name : Text}
    {first second : FunctionDecl}
    (h : (s.call c).2 = .error (.duplicateSymbol name first second)) : (s.call c).1 = s := by
  cases c with
  | resolve d =>
      simp only [call, snd_resolve, Resolver.resolve?] at h
      cases hfault : s.resolver.fault? d with
      | none => rw [hfault] at h; contradiction
      | some e =>
          obtain ⟨fault, rfl⟩ := Resolver.fault?_eq_some hfault
          rw [hfault] at h
          cases h
  | resolveAll ds =>
      by_cases hnodup : (ds.map (·.symbolName)).Nodup
      · rw [call, resolveAll_of_nodup s hnodup] at h
        cases hbatch : s.resolver.batch ds with
        | ok xs => rw [hbatch] at h; contradiction
        | error e =>
            rw [hbatch] at h
            cases h
            exact absurd hbatch (s.resolver.batch_ne_duplicate ds _ _ _)
      · exact resolveAll_of_not_nodup s hnodup
  | checkDuplicates ds => rfl

/-- A batch gives for each declaration what a new session gives for it. -/
theorem forall₂_of_resolveAll {s : ResolverSession} {ds : List FunctionDecl}
    {symbols : List ResolvedSymbol} (h : (s.resolveAll ds).2 = .ok symbols) :
    List.Forall₂ (fun d symbol => ((start s.resolver).resolve d).2 = .ok symbol) ds symbols := by
  have hnodup : (ds.map (·.symbolName)).Nodup := by
    by_contra hdup
    obtain ⟨first, second, hcheck⟩ := Resolver.checkDuplicates_of_not_nodup hdup
    rw [resolveAll, hcheck] at h
    contradiction
  rw [resolveAll_of_nodup s hnodup] at h
  cases hbatch : s.resolver.batch ds with
  | error e => rw [hbatch] at h; contradiction
  | ok xs =>
      obtain ⟨hfault, rfl⟩ := Resolver.batch_eq_ok_iff.mp hbatch
      rw [hbatch] at h
      cases h
      simp only [List.map_map, List.forall₂_map_right_iff, List.forall₂_same]
      intro d hd
      simp only [snd_resolve, start, Resolver.resolve?, hfault d hd]
      rfl

/-! ### Any number of calls -/

theorem after_append (s : ResolverSession) (calls more : List Call) :
    s.after (calls ++ more) = (s.after calls).after more :=
  List.foldl_append

theorem resolver_after (s : ResolverSession) (calls : List Call) :
    (s.after calls).resolver = s.resolver := by
  induction calls generalizing s with
  | nil => rfl
  | cons c rest ih => exact (ih (s.call c).1).trans (s.resolver_call c)

theorem warnings_after_of_not_startsAnew (s : ResolverSession) {calls : List Call}
    (h : ∀ c ∈ calls, ¬ c.StartsAnew) :
    (s.after calls).warnings =
      s.warnings ++
        (calls.flatMap (Call.resolved s.resolver)).flatMap (warningsAbout s.resolver) := by
  induction calls generalizing s with
  | nil => simp [after]
  | cons c rest ih =>
      obtain ⟨hc, hrest⟩ := List.forall_mem_cons.mp h
      change ((s.call c).1.after rest).warnings = _
      rw [ih _ hrest, resolver_call, warnings_call_of_not_startsAnew s hc, List.flatMap_cons,
        List.flatMap_append, List.append_assoc]

theorem warnings_after_of_recent (r : Resolver) {calls recent : List Call}
    (h : Call.Recent calls recent) :
    ((start r).after calls).warnings =
      (recent.flatMap (Call.resolved r)).flatMap (warningsAbout r) := by
  cases h with
  | all hall => exact warnings_after_of_not_startsAnew (start r) hall
  | @batch earlier c later hc hlater =>
      -- the calls before the batch play no part once it has begun
      rw [after_append]
      change (((((start r).after earlier).call c).1).after later).warnings = _
      rw [warnings_after_of_not_startsAnew _ hlater, warnings_call_of_startsAnew _ hc,
        resolver_call, resolver_after, List.flatMap_cons, List.flatMap_append]
      rfl

/-- Whatever a resolver was asked before, it answers as a new one does, and a batch one by one. Its
warnings are those that a new one has about each declaration resolved since the last batch without
duplicates, and nothing happens where a call fails because of duplicates. -/
theorem after_eq_fresh (r : Resolver) (calls : List Call) :
    (∀ d, (((start r).after calls).resolve d).2 = ((start r).resolve d).2) ∧
    (∀ ds, (((start r).after calls).resolveAll ds).2 = ((start r).resolveAll ds).2 ∧
      ∀ symbols, (((start r).after calls).resolveAll ds).2 = .ok symbols →
        List.Forall₂ (fun d symbol => ((start r).resolve d).2 = .ok symbol) ds symbols) ∧
    (∃ recent, Call.Recent calls recent) ∧
    (∀ recent, Call.Recent calls recent →
      ((start r).after calls).warnings =
        (recent.flatMap (Call.resolved r)).flatMap fun d => ((start r).resolve d).1.warnings) ∧
    (∀ c name first second,
      (((start r).after calls).call c).2 = .error (.duplicateSymbol name first second) →
        (((start r).after calls).call c).1 = (start r).after calls) := by
  have hresolver : ((start r).after calls).resolver = r := resolver_after (start r) calls
  refine ⟨fun d => ?_, fun ds => ⟨?_, fun symbols h => ?_⟩, Call.exists_recent calls,
    fun recent h => warnings_after_of_recent r h, fun c _ _ _ h => fst_call_of_duplicate _ h⟩
  · rw [snd_resolve, snd_resolve, hresolver]
    rfl
  · rw [snd_resolveAll, hresolver]
  · have hall := forall₂_of_resolveAll h
    rwa [hresolver] at hall

/-- A batch with duplicates keeps the warnings, and one without them drops those before it. -/
example :
    let d : FunctionDecl := .ofName "lib_open"
    let strips : NamingRule := ⟨⟨.stripOwner, .leading, none, none, false⟩, "lib_"⟩
    let r : Resolver := ⟨[], ⟨[strips]⟩, .none, .none, false⟩
    let calls : List Call := [.resolve d, .resolveAll [d, d], .resolve d]
    ((start r).after calls).warnings.length = 2 ∧
      ((start r).after (calls ++ [.resolveAll [d]])).warnings.length = 1 :=
  ⟨rfl, rfl⟩

end ResolverSession

end BindingNames
