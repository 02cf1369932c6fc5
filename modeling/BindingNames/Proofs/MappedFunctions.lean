import BindingNames.Proofs.ExactRules
import BindingNames.Proofs.Mapping
import BindingNames.Proofs.Placement
import BindingNames.Proofs.RuleAddressing

/-!
What a symbol map makes of the functions of a C header when there are no other rules. Its entries
are looked up by key, each for itself, and the rule for the role and the rule for the new name come
from the same entry. So the target of a function decides: a dash leaves the function out, a dot
makes it a method of its owner, or leaves a function and a warning if there is no such type, and any
other target keeps the function under that name. Functions without an entry are resolved as if there
was no map, and the order of the entries does not matter.
-/

namespace BindingNames

/-- A function that was read as C. -/
structure FunctionDecl.IsPlain (d : FunctionDecl) : Prop where
  mangledName : d.mangledName = none
  memberOf : d.memberOf = none

/-- A configuration with a symbol map for its only rules, with a known style, with texts to trim
and without a check of receivers. -/
structure Configuration.OnlyMaps (c : Configuration) : Prop where
  source : c.rulesSource.holds = false
  entries : c.rules.holds = false
  style : ∃ style, NameStyle.ofSetting c.nameStyle = .ok style
  prefixes : ∃ prefixes : List Text, c.trimPrefixes = .list (prefixes.map Value.text)
  receivers : c.receiverCheck.holds = false

/-- The base name and the role of a function by its target in a symbol map, and the warnings about
it. -/
inductive Resolver.Follows (r : Resolver) (d : FunctionDecl) :
    Text → Text → Role → List Warning → Prop where
  /-- A dot makes a method of the owner, if that is known. -/
  | method {name base owner : Text} (howner : r.ownerOf d = some owner) (hknown : r.knows owner)
      (hbase : name ≠ [] → base = name) :
      Follows r d (RuleSet.methodMark :: name) base (.method owner) []
  /-- Without a known owner there is a function, and one warning. -/
  | fallback {name base : Text} {w : Warning}
      (howner : ∀ owner, r.ownerOf d = some owner → r.knows owner = false)
      (hbase : name ≠ [] → base = name) (hkind : w.kind = unknownTarget)
      (hname : w.rawName = d.rawName) :
      Follows r d (RuleSet.methodMark :: name) base .function [w]
  | function {target : Text} (hmark : target.head? ≠ some RuleSet.methodMark)
      (hne : target ≠ []) : Follows r d target target .function []
  /-- An empty target keeps the name. -/
  | kept : Follows r d [] d.rawName .function []

def Mapped.warningsAbout (x : Mapped) (name : Text) : List Warning :=
  x.warnings.filter (·.rawName == name)

/-- What a run gives for some functions with a symbol map. -/
structure Mapped.FollowsMap (x : Mapped) (fields : Fields) (r : Resolver)
    (ds : List FunctionDecl) : Prop where
  /-- The symbols are in the order of the declarations. -/
  decls : (x.symbols.map (·.decl)).Sublist ds
  /-- Only a dash as target leaves a function out. -/
  ignored : ∀ d ∈ ds, d ∉ x.symbols.map (·.decl) ↔
    ∃ value, (.text d.rawName, .text value) ∈ fields ∧ Text.trim value = RuleSet.ignoreMark
  mapped : ∀ s ∈ x.symbols, ∀ value, (.text s.rawName, .text value) ∈ fields →
    s.emitAsFunction = false ∧
      r.Follows s.decl (Text.trim value) s.baseName s.role (x.warningsAbout s.rawName)

/-! ### Mappers with a symbol map -/

namespace RuleSet

theorem targetText_text (s : Text) : targetText (.text s) = .ok (Text.trim s) := by
  cases s <;> rfl

/-- Nothing but a text can be the mark for ignored symbols. -/
theorem targetText_eq_ignoreMark {v : Value} (h : targetText v = .ok ignoreMark) :
    ∃ s, v = .text s ∧ Text.trim s = ignoreMark := by
  by_cases hv : v.holds
  · have hv' : (!v.holds) = false := by simp [hv]
    simp only [targetText, hv', Bool.false_eq_true, if_false] at h
    split at h
    · exact ⟨_, rfl, Except.ok.inj h⟩
    · contradiction
    · contradiction
  · simp only [targetText, hv] at h
    exact absurd (Except.ok.inj h) (by decide)

theorem mappedDrafts_of_head?_ne {symbol : Scalar} {target : Text}
    (h : target.head? ≠ some methodMark) :
    mappedDrafts symbol target =
      .keepFunction symbol .exact ::
        if target = [] ∨ symbol = .text target then []
        else [.rename symbol .exact (some target)] := by
  cases target with
  | nil => rfl
  | cons c name =>
      have hc : c ≠ methodMark := by simpa using h
      simp [mappedDrafts, hc]

theorem exists_ofFields_iff {fields : Fields} :
    (∃ s, ofFields fields = .ok s) ↔
      ∀ field ∈ fields, ∃ target, targetText field.2 = .ok target := by
  have general : ∀ start : RuleSet, (∃ s, fields.foldlM addMapped start = .ok s) ↔
      ∀ field ∈ fields, ∃ target, targetText field.2 = .ok target := by
    induction fields with
    | nil => exact fun start => ⟨fun _ => by simp, fun _ => ⟨start, rfl⟩⟩
    | cons field rest ih =>
        intro start
        rw [List.foldlM_cons, List.forall_mem_cons]
        cases htarget : targetText field.2 with
        | error e =>
            have hfield : start.addMapped field = .error e := by simp only [addMapped, htarget]; rfl
            rw [hfield]
            constructor
            · rintro ⟨_, h⟩
              contradiction
            · rintro ⟨⟨_, h⟩, -⟩
              contradiction
        | ok target =>
            have hfield : ∃ next, start.addMapped field = .ok next := by
              simp only [addMapped, htarget]
              change ∃ next, (if target == ignoreMark then _ else _) = _
              split <;> exact ⟨_, rfl⟩
            obtain ⟨next, hnext⟩ := hfield
            rw [hnext]
            exact (ih next).trans ⟨fun h => ⟨⟨target, rfl⟩, h⟩, And.right⟩
  exact general empty

theorem ignores_append {s t : RuleSet} {symbol : Text} :
    (s.append t).ignores symbol ↔ s.ignores symbol ∨ t.ignores symbol := by
  have general : ∀ keys start : List Scalar,
      .text symbol ∈ keys.foldl (fun all key => insertKey key all) start ↔
        .text symbol ∈ start ∨ .text symbol ∈ keys := by
    intro keys
    induction keys with
    | nil => simp
    | cons key rest ih =>
        intro start
        rw [List.foldl_cons, ih, text_mem_insertKey, List.mem_cons, or_assoc, eq_comm (a := key)]
  rw [ignores_iff, ignores_iff, ignores_iff]
  exact general t.ignored s.ignored

theorem result_ofSymbolMap (fields : Fields) :
    (ofSymbolMap (.map fields)).result = ofFields fields := by
  cases fields with
  | nil => rfl
  | cons field rest =>
      have hholds : (!(Value.map (field :: rest)).holds) = false := rfl
      simp only [ofSymbolMap, hholds, Bool.false_eq_true, if_false, Value.bare_map, Logged.tell,
        Logged.result_bind, Logged.result_pure, Logged.result_lift, Logged.result_write]
      cases h : ofFields (field :: rest) <;> simp only [bind, Except.bind, h]

end RuleSet

namespace Mapper

/-- A mapper whose rules are those of a symbol map. -/
structure HasMap (m : Mapper) (fields : Fields) : Prop where
  table : RuleTable.ofDrafts (fields.flatMap RuleSet.entryDrafts) = .ok m.table
  ignores : ∀ symbol, m.rules.ignores symbol ↔
    ∃ field ∈ fields, RuleSet.EntryIgnores symbol field

theorem result_loadRules {c : Configuration} (hsource : c.rulesSource.holds = false)
    (hentries : c.rules.holds = false) (disk : Disk) :
    (loadRules disk c).result =
      (RuleSet.ofFields c.symMap).map fun s => RuleSet.empty.append s := by
  have hplaced : c.placedSource = .ok [] := by
    simp only [Configuration.placedSource, hsource]
    rfl
  simp only [loadRules, hplaced, hentries, Bool.false_eq_true, if_false]
  cases hmap : c.symMap with
  | nil => rfl
  | cons field rest =>
      change (RuleSet.ofSymbolMap (.map (field :: rest)) >>= fun s =>
        pure ((RuleSet.empty.append RuleSet.empty).append s)).result = _
      rw [Logged.result_bind, RuleSet.result_ofSymbolMap, RuleSet.append_empty]
      cases RuleSet.ofFields (field :: rest) <;> rfl

theorem result_start {disk : Disk} {c : Configuration} {rules : RuleSet} {t : RuleTable}
    (hrules : (loadRules disk c).result = .ok rules)
    (ht : RuleTable.ofDrafts rules.drafts = .ok t) :
    (start disk c).result = .ok ⟨c, t, rules, .zero⟩ := by
  simp only [start, Logged.tell, Logged.result_bind, Logged.result_lift, Logged.result_write,
    hrules]
  change RuleTable.ofDrafts rules.drafts >>= _ = _
  rw [ht]
  rfl

/-- Where a configuration has only a symbol map whose rules are accepted, there is a mapper with
these rules. -/
theorem exists_start {c : Configuration} (hsource : c.rulesSource.holds = false)
    (hentries : c.rules.holds = false) (disk : Disk) {s : RuleSet}
    (hs : RuleSet.ofFields c.symMap = .ok s) {t : RuleTable}
    (ht : RuleTable.ofDrafts s.drafts = .ok t) :
    ∃ m, (start disk c).result = .ok m ∧ m.config = c ∧ m.HasMap c.symMap := by
  have hrules : (loadRules disk c).result = .ok (RuleSet.empty.append s) := by
    rw [result_loadRules hsource hentries, hs]
    rfl
  obtain ⟨hdrafts, hignores⟩ := RuleSet.ofFields_eq_ok hs
  refine ⟨_, result_start hrules ht, rfl, hdrafts ▸ ht, fun symbol => ?_⟩
  rw [RuleSet.ignores_append, hignores]
  simp [RuleSet.ignores, RuleSet.empty]

end Mapper

/-! ### Functions with an entry -/

namespace Resolver

variable {r : Resolver} {d : FunctionDecl} {fields : Fields}

theorem resolve_of_isPlain (hd : d.IsPlain) (hcheck : r.receiverCheck = false) :
    r.resolve d =
      ⟨.initial d ((r.newName d.rawName).getD
          (if (r.place d).verbatim then (r.place d).base else r.style.apply (r.place d).base))
        (r.place d).role (r.place d).emit, (r.place d).warning, false⟩ := by
  simp [resolve, hd.memberOf, resolveFree, hcheck]

theorem place_of_keepFunction {rule : NamingRule}
    (hrule : r.table.roleRule d.rawName = some rule) (hkeep : rule.directive = .keepFunction) :
    r.place d = keptFunction d.rawName none := by
  simp [place, hrule, hkeep]

section Entry

variable (ht : RuleTable.ofDrafts (fields.flatMap RuleSet.entryDrafts) = .ok r.table)
  (hkeys : (fields.map (·.1)).Nodup) {v : Value} (h : (.text d.rawName, v) ∈ fields)
include ht hkeys h

theorem exists_roleRule (draft : RuleDraft)
    (hdraft : (RuleSet.entryDrafts (.text d.rawName, v)).find? (·.directive.isRole) = some draft) :
    ∃ rule, r.table.roleRule d.rawName = some rule ∧ rule.toRuleBody = draft.toRuleBody := by
  have hlookup := RuleTable.lookup_entries_of_mem ht hkeys h Directive.isRole
  rw [hdraft] at hlookup
  obtain ⟨rule, hrule, rfl⟩ := Option.map_eq_some_iff.mp hlookup
  exact ⟨rule, hrule, rfl⟩

theorem newName_eq :
    r.newName d.rawName =
      ((RuleSet.entryDrafts (.text d.rawName, v)).find? (!·.directive.isRole)).bind
        (·.newName) := by
  have hlookup := RuleTable.lookup_entries_of_mem ht hkeys h (!·.isRole)
  rw [← hlookup, Option.bind_map]
  rfl

theorem follows_of_methodMark (hd : d.IsPlain) (hcheck : r.receiverCheck = false) {name : Text}
    (hentry : RuleSet.entryDrafts (.text d.rawName, v) =
      RuleSet.mappedDrafts (.text d.rawName) (RuleSet.methodMark :: name)) :
    (r.resolve d).symbol.emitAsFunction = false ∧
      r.Follows d (RuleSet.methodMark :: name) (r.resolve d).symbol.baseName
        (r.resolve d).symbol.role (r.resolve d).warning.toList := by
  obtain ⟨rule, hrule, hbody⟩ := exists_roleRule ht hkeys h
    (.stripOwner (.text d.rawName) .exact none)
    (by simp [hentry, RuleSet.mappedDrafts, RuleDraft.stripOwner, Directive.isRole])
  have hbase : ∀ other, name ≠ [] → (r.newName d.rawName).getD other = name := by
    intro other hne
    rw [newName_eq ht hkeys h, hentry]
    simp [RuleSet.mappedDrafts, hne, RuleDraft.stripOwner, RuleDraft.rename, Directive.isRole]
  rw [resolve_of_isPlain hd hcheck, place_of_stripOwner hrule
    (congrArg RuleBody.directive hbody) (congrArg (nonempty? ·.target) hbody)]
  cases howner : (r.ownerOf d).filter r.knows with
  | some owner =>
      obtain ⟨hsome, hknown⟩ := Option.filter_eq_some_iff.mp howner
      exact ⟨rfl, .method hsome hknown (hbase _)⟩
  | none =>
      refine ⟨rfl, .fallback (fun owner hsome => ?_) (hbase _) rfl rfl⟩
      rw [hsome] at howner
      simpa using howner

theorem follows_of_head?_ne (hd : d.IsPlain) (hcheck : r.receiverCheck = false) {target : Text}
    (hmark : target.head? ≠ some RuleSet.methodMark)
    (hentry : RuleSet.entryDrafts (.text d.rawName, v) =
      RuleSet.mappedDrafts (.text d.rawName) target) :
    (r.resolve d).symbol.emitAsFunction = false ∧
      r.Follows d target (r.resolve d).symbol.baseName (r.resolve d).symbol.role
        (r.resolve d).warning.toList := by
  rw [RuleSet.mappedDrafts_of_head?_ne hmark] at hentry
  obtain ⟨rule, hrule, hbody⟩ := exists_roleRule ht hkeys h
    (.keepFunction (.text d.rawName) .exact)
    (by simp [hentry, RuleDraft.keepFunction, Directive.isRole])
  have hbase : (r.newName d.rawName).getD d.rawName =
      if target = [] then d.rawName else target := by
    rw [newName_eq ht hkeys h, hentry]
    by_cases hempty : target = []
    · simp [hempty, RuleDraft.keepFunction, Directive.isRole]
    · by_cases hsame : d.rawName = target <;>
        simp [hempty, hsame, RuleDraft.keepFunction, RuleDraft.rename, Directive.isRole]
  rw [resolve_of_isPlain hd hcheck,
    place_of_keepFunction hrule (congrArg RuleBody.directive hbody)]
  refine ⟨rfl, ?_⟩
  change r.Follows d target ((r.newName d.rawName).getD d.rawName) .function []
  rw [hbase]
  split
  · rename_i hempty
    rw [hempty]
    exact .kept
  · rename_i hne
    exact .function hmark hne

/-- The entry of a function decides about it, unless it says that the function is ignored. -/
theorem follows_resolve (hd : d.IsPlain) (hcheck : r.receiverCheck = false) {target : Text}
    (htarget : RuleSet.targetText v = .ok target) (hignore : target ≠ RuleSet.ignoreMark) :
    (r.resolve d).symbol.emitAsFunction = false ∧
      r.Follows d target (r.resolve d).symbol.baseName (r.resolve d).symbol.role
        (r.resolve d).warning.toList := by
  have hentry : RuleSet.entryDrafts (.text d.rawName, v) =
      RuleSet.mappedDrafts (.text d.rawName) target := by
    simp [RuleSet.entryDrafts, htarget, hignore]
  by_cases hmark : target.head? = some RuleSet.methodMark
  · obtain ⟨name, rfl⟩ := List.head?_eq_some_iff.mp hmark
    exact follows_of_methodMark ht hkeys h hd hcheck hentry
  · exact follows_of_head?_ne ht hkeys h hd hcheck hmark hentry

end Entry

/-- The entries for a function are all that counts of two symbol maps. -/
theorem resolve?_withTable_of_same_entries (hd : d.IsPlain)
    (ht : RuleTable.ofDrafts (fields.flatMap RuleSet.entryDrafts) = .ok r.table)
    (hkeys : (fields.map (·.1)).Nodup) {fields' : Fields} {t' : RuleTable}
    (ht' : RuleTable.ofDrafts (fields'.flatMap RuleSet.entryDrafts) = .ok t')
    (hkeys' : (fields'.map (·.1)).Nodup)
    (hsame : ∀ v, (.text d.rawName, v) ∈ fields' ↔ (.text d.rawName, v) ∈ fields) :
    (r.withTable t').resolve? d = r.resolve? d := by
  refine resolve?_eq_of_lookup_eq fun admits => ?_
  rw [ruleKey_of_memberOf_eq_none hd.memberOf]
  exact RuleTable.lookup_entries_congr ht hkeys ht' hkeys' hsame admits

/-! ### Warnings -/

/-- Among functions with different names, the warnings that bear the name of a function come from
its resolution. -/
theorem warnings_about {ds : List FunctionDecl} (hnodup : (ds.map (·.rawName)).Nodup)
    (hmem : d ∈ ds) :
    (ds.filterMap fun e => (r.resolve e).warning).filter (·.rawName == d.rawName) =
      (r.resolve d).warning.toList := by
  obtain ⟨front, back, rfl⟩ := List.append_of_mem hmem
  rw [List.map_append, List.map_cons, List.nodup_middle, List.nodup_cons, List.mem_append,
    not_or] at hnodup
  have hother : ∀ es : List FunctionDecl, d.rawName ∉ es.map (·.rawName) →
      (es.filterMap fun e => (r.resolve e).warning).filter (·.rawName == d.rawName) = [] := by
    intro es hes
    rw [List.filter_eq_nil_iff]
    intro w hw hname
    obtain ⟨e, he, hw⟩ := List.mem_filterMap.mp hw
    have hraw : w.rawName = e.rawName := (r.resolves_resolve e).rawName_of_warning hw
    exact hes (List.mem_map.mpr ⟨e, he, hraw.symm.trans (eq_of_beq hname)⟩)
  rw [List.filterMap_append, List.filter_append, hother front hnodup.1.1, List.nil_append]
  cases hw : (r.resolve d).warning with
  | none =>
      rw [List.filterMap_cons_none (f := fun e => (r.resolve e).warning) hw,
        hother back hnodup.1.2]
      rfl
  | some w =>
      rw [List.filterMap_cons_some (f := fun e => (r.resolve e).warning) hw,
        List.filter_cons_of_pos, hother back hnodup.1.2]
      · rfl
      · exact beq_iff_eq.mpr ((r.resolves_resolve d).rawName_of_warning hw)

end Resolver

/-! ### Runs with a symbol map -/

namespace Mapper

variable {m m' : Mapper} {fields : Fields} {types : List TypeDecl} {r : Resolver}
  {ds : List FunctionDecl}

theorem HasMap.ignores_iff (h : m.HasMap fields) {name : Text} :
    m.rules.ignores name ↔
      ∃ value, (.text name, .text value) ∈ fields ∧ Text.trim value = RuleSet.ignoreMark := by
  rw [h.ignores]
  constructor
  · rintro ⟨⟨key, v⟩, hmem, htarget, rfl⟩
    obtain ⟨value, rfl, hvalue⟩ := RuleSet.targetText_eq_ignoreMark htarget
    exact ⟨value, hmem, hvalue⟩
  · rintro ⟨value, hmem, hvalue⟩
    exact ⟨_, hmem, (RuleSet.targetText_text value).trans (congrArg _ hvalue), rfl⟩

theorem exists_resolver (hc : m.config.OnlyMaps) (types : List TypeDecl) :
    ∃ r, m.resolver types = .ok r ∧ r.trimming.wrong = none ∧ r.receiverCheck = false := by
  obtain ⟨style, hstyle⟩ := hc.style
  obtain ⟨prefixes, hprefixes⟩ := hc.prefixes
  have htrimming : Trimming.ofValue m.config.trimPrefixes =
      .ok (Trimming.ofMembers (prefixes.map Value.text)) := by
    rw [hprefixes]
    rfl
  exact ⟨_, resolver_eq_ok hstyle htrimming types, Trimming.wrong_ofMembers_texts prefixes,
    hc.receivers⟩

theorem resolver_withTable (hconfig : m'.config = { m.config with symMap := fields })
    (hr : m.resolver types = .ok r) : m'.resolver types = .ok (r.withTable m'.table) := by
  have hmap : m'.resolver types = (m.resolver types).map (·.withTable m'.table) := by
    refine resolver_eq_map ?_ ?_ fun style trimming => ?_ <;> rw [hconfig]
    rfl
  rw [hmap, hr]
  rfl

/-- Nothing goes wrong in a run where all beginnings to trim are texts. -/
theorem result_resolve_of_wrong_eq_none (hr : m.resolver types = .ok r)
    (hwrong : r.trimming.wrong = none) (hnodup : (ds.map (·.symbolName)).Nodup) :
    (m.resolve types ds).2.result = .ok (mappedOf ((m.kept ds).map r.resolve)) := by
  rw [result_resolve_of_nodup hr hnodup, Resolver.batch_of_wrong_eq_none hwrong]
  rfl

theorem HasMap.followsMap (h : m.HasMap fields) (hkeys : (fields.map (·.1)).Nodup)
    (hr : m.resolver types = .ok r) (hcheck : r.receiverCheck = false)
    (hplain : ∀ d ∈ ds, d.IsPlain) (hnodup : (ds.map (·.symbolName)).Nodup) :
    (mappedOf ((m.kept ds).map r.resolve)).FollowsMap fields r ds := by
  have hname : ∀ d ∈ ds, d.symbolName = d.rawName := fun d hd =>
    FunctionDecl.symbolName_of_no_mangled (hplain d hd).mangledName
  have hkept : ∀ d, d ∈ m.kept ds ↔ d ∈ ds ∧ ¬ m.rules.ignores d.symbolName := by
    simp [kept]
  refine ⟨?_, fun d hd => ?_, fun s hs value hvalue => ?_⟩
  · rw [decls_mappedOf]
    exact List.filter_sublist
  · rw [decls_mappedOf, hkept, hname d hd, not_and_not_right, h.ignores_iff]
    exact ⟨fun hi => hi hd, fun hi _ => hi⟩
  · obtain ⟨hmem, hframe⟩ := eq_withFinalName_of_mem hs
    obtain ⟨hd, hnot⟩ := (hkept s.decl).mp hmem
    have hignore : Text.trim value ≠ RuleSet.ignoreMark := by
      intro heq
      rw [hname s.decl hd] at hnot
      exact hnot (h.ignores_iff.mpr ⟨value, hvalue, heq⟩)
    have ht : RuleTable.ofDrafts (fields.flatMap RuleSet.entryDrafts) = .ok r.table := by
      rw [(resolver_eq_fields hr).2]
      exact h.table
    have hkeptNodup : ((m.kept ds).map (·.rawName)).Nodup := by
      rw [← List.map_congr_left fun d hd => hname d ((hkept d).mp hd).1]
      exact m.nodup_kept hnodup
    have hwarnings : (mappedOf ((m.kept ds).map r.resolve)).warningsAbout s.rawName =
        (r.resolve s.decl).warning.toList := by
      simp only [Mapped.warningsAbout, mappedOf, List.filterMap_map]
      exact Resolver.warnings_about hkeptNodup hmem
    obtain ⟨hemit, hfollows⟩ := Resolver.follows_resolve ht hkeys hvalue (hplain _ hd) hcheck
      (RuleSet.targetText_text value) hignore
    rw [hwarnings, congrArg ResolvedSymbol.baseName hframe, congrArg ResolvedSymbol.role hframe,
      congrArg ResolvedSymbol.emitAsFunction hframe]
    exact ⟨hemit, hfollows⟩

/-- What two mappers whose symbol maps differ make of a function. -/
theorem HasMap.resolve_withTable (h : m.HasMap fields) (hkeys : (fields.map (·.1)).Nodup)
    (hr : m.resolver types = .ok r) (hwrong : r.trimming.wrong = none) {fields' : Fields}
    (h' : m'.HasMap fields') (hkeys' : (fields'.map (·.1)).Nodup) {d : FunctionDecl}
    (hd : d.IsPlain) (hsame : ∀ v, (.text d.rawName, v) ∈ fields' ↔ (.text d.rawName, v) ∈ fields) :
    (r.withTable m'.table).resolve d = r.resolve d := by
  have ht : RuleTable.ofDrafts (fields.flatMap RuleSet.entryDrafts) = .ok r.table := by
    rw [(resolver_eq_fields hr).2]
    exact h.table
  have heq := Resolver.resolve?_withTable_of_same_entries hd ht hkeys h'.table hkeys' hsame
  rw [Resolver.resolve?_of_wrong_eq_none hwrong,
    Resolver.resolve?_of_wrong_eq_none (r := r.withTable m'.table) hwrong] at heq
  exact Except.ok.inj heq

theorem HasMap.kept_of_perm (h : m.HasMap fields) {fields' : Fields}
    (hperm : fields'.Perm fields) (h' : m'.HasMap fields') (ds : List FunctionDecl) :
    m'.kept ds = m.kept ds := by
  refine List.filter_congr fun d _ => ?_
  have hsame : m'.rules.ignores d.symbolName ↔ m.rules.ignores d.symbolName := by
    simp only [h.ignores_iff, h'.ignores_iff, hperm.mem_iff]
  rw [Bool.eq_iff_iff.mpr hsame]

/-- A function without an entry gets what it gets without a map, up to its final name. -/
theorem HasMap.exists_symbol_without_map (h : m.HasMap fields) (hkeys : (fields.map (·.1)).Nodup)
    (hr : m.resolver types = .ok r) (hwrong : r.trimming.wrong = none) (h' : m'.HasMap [])
    (hplain : ∀ d ∈ ds, d.IsPlain) {s : ResolvedSymbol}
    (hs : s ∈ (mappedOf ((m.kept ds).map r.resolve)).symbols)
    (hkey : .text s.rawName ∉ fields.map (·.1)) :
    ∃ s' ∈ (mappedOf ((m'.kept ds).map (r.withTable m'.table).resolve)).symbols,
      s = s'.withFinalName s.finalName := by
  obtain ⟨hmem, hframe⟩ := eq_withFinalName_of_mem hs
  have hd : s.decl ∈ ds := List.mem_of_mem_filter hmem
  have hmem' : s.decl ∈ m'.kept ds := by
    refine List.mem_filter.mpr ⟨hd, ?_⟩
    simpa using mt h'.ignores_iff.mp (by simp)
  rw [← decls_mappedOf (r.withTable m'.table) (m'.kept ds)] at hmem'
  obtain ⟨s', hs', hdecl⟩ := List.mem_map.mp hmem'
  have hframe' := (eq_withFinalName_of_mem hs').2
  have hsame := h.resolve_withTable hkeys hr hwrong h' (by simp) (hplain s.decl hd)
    fun v => by simpa using fun hv => hkey (List.mem_map.mpr ⟨_, hv, rfl⟩)
  rw [hdecl, hsame] at hframe'
  exact ⟨s', hs', hframe.trans (congrArg (·.withFinalName s.finalName) hframe').symm⟩

/-- The order of the entries does not decide whether there is a mapper. -/
theorem exists_start_of_perm {c : Configuration} (hc : c.OnlyMaps) (disk : Disk) {s : RuleSet}
    (hs : RuleSet.ofFields c.symMap = .ok s) {t : RuleTable}
    (ht : RuleTable.ofDrafts s.drafts = .ok t) (hperm : fields.Perm c.symMap) :
    ∃ m, (start disk { c with symMap := fields }).result = .ok m ∧
      m.config = { c with symMap := fields } ∧ m.HasMap fields := by
  obtain ⟨s', hs'⟩ : ∃ s', RuleSet.ofFields fields = .ok s' := by
    refine RuleSet.exists_ofFields_iff.mpr fun field hfield => ?_
    exact RuleSet.exists_ofFields_iff.mp ⟨s, hs⟩ field (hperm.mem_iff.mp hfield)
  obtain ⟨t', ht'⟩ : ∃ t', RuleTable.ofDrafts s'.drafts = .ok t' := by
    refine RuleTable.exists_ofDrafts_of_perm ?_ ht
    rw [(RuleSet.ofFields_eq_ok hs).1, (RuleSet.ofFields_eq_ok hs').1]
    exact hperm.flatMap_right _
  exact exists_start (c := { c with symMap := fields }) hc.source hc.entries disk hs' ht'

/-- Where a symbol map with different keys has rules that are accepted and is all there is, runs
over different plain functions succeed. Each function follows the entry with its name, and one
without an entry gets what it gets without a map, up to its final name. Any order of the entries
gives the same symbols and warnings. -/
theorem result_resolve_followsMap {c : Configuration} (hc : c.OnlyMaps)
    (hkeys : (c.symMap.map (·.1)).Nodup) {s : RuleSet} (hs : RuleSet.ofFields c.symMap = .ok s)
    {t : RuleTable} (ht : RuleTable.ofDrafts s.drafts = .ok t) (disk : Disk)
    (types : List TypeDecl) {ds : List FunctionDecl} (hplain : ∀ d ∈ ds, d.IsPlain)
    (hnodup : (ds.map (·.symbolName)).Nodup) :
    ∃ m r x, (start disk c).result = .ok m ∧ m.resolver types = .ok r ∧
      (m.resolve types ds).2.result = .ok x ∧ x.FollowsMap c.symMap r ds ∧
      (∃ m' x', (start disk { c with symMap := [] }).result = .ok m' ∧
        (m'.resolve types ds).2.result = .ok x' ∧
        ∀ s ∈ x.symbols, .text s.rawName ∉ c.symMap.map (·.1) →
          ∃ s' ∈ x'.symbols, s = s'.withFinalName s.finalName) ∧
      (∀ fields : Fields, fields.Perm c.symMap →
        ∃ m', (start disk { c with symMap := fields }).result = .ok m' ∧
          (m'.resolve types ds).2.result = .ok x) := by
  obtain ⟨m, hstart, rfl, hmap⟩ := exists_start hc.source hc.entries disk hs ht
  obtain ⟨r, hr, hwrong, hcheck⟩ := exists_resolver hc types
  refine ⟨m, r, _, hstart, hr, result_resolve_of_wrong_eq_none hr hwrong hnodup,
    hmap.followsMap hkeys hr hcheck hplain hnodup, ?_, fun fields hperm => ?_⟩
  · obtain ⟨m', hstart', hconfig', hmap'⟩ :=
      exists_start (c := { m.config with symMap := [] }) hc.source hc.entries disk rfl rfl
    have hr' := resolver_withTable hconfig' hr
    refine ⟨m', _, hstart', result_resolve_of_wrong_eq_none hr' hwrong hnodup, fun s hs hkey => ?_⟩
    exact hmap.exists_symbol_without_map hkeys hr hwrong hmap' hplain hs hkey
  · obtain ⟨m', hstart', hconfig', hmap'⟩ := exists_start_of_perm hc disk hs ht hperm
    have hr' := resolver_withTable hconfig' hr
    have hkeys' : (fields.map (·.1)).Nodup := (hperm.map _).nodup_iff.mpr hkeys
    refine ⟨m', hstart', ?_⟩
    rw [result_resolve_of_wrong_eq_none hr' hwrong hnodup, hmap.kept_of_perm hperm hmap']
    refine congrArg (fun xs => Except.ok (mappedOf xs)) (List.map_congr_left fun d hd => ?_)
    exact hmap.resolve_withTable hkeys hr hwrong hmap' hkeys'
      (hplain d (List.mem_of_mem_filter hd)) fun v => hperm.mem_iff

/-- A map with a target of each form, read in two orders. -/
theorem result_resolve_followsMap_reverse :
    let fields : Fields :=
      [(.text "lib_skip", .text " - "), (.text "Buf_read", .text ".Load"),
        (.text "lib_init", .text "."), (.text "lib_go", .text " Go "), (.text "lib_keep", .text "")]
    let c : Configuration :=
      { Configuration.unset with
        nameStyle := .text "camel", trimPrefixes := .list [.text "lib_"], symMap := fields }
    let ds : List FunctionDecl :=
      [.ofName "lib_skip", .ofName "Buf_read", .ofName "lib_init", .ofName "lib_go",
        .ofName "lib_keep", .ofName "lib_other"]
    ∃ m x m', (start default c).result = .ok m ∧
      (m.resolve [⟨"Buf", true, none⟩] ds).2.result = .ok x ∧
      .ofName "lib_skip" ∉ x.symbols.map (·.decl) ∧
      (start default { c with symMap := fields.reverse }).result = .ok m' ∧
      (m'.resolve [⟨"Buf", true, none⟩] ds).2.result = .ok x := by
  intro fields c ds
  have hc : c.OnlyMaps := ⟨rfl, rfl, ⟨.camel, rfl⟩, ⟨["lib_"], rfl⟩, rfl⟩
  have hkeys : (c.symMap.map (·.1)).Nodup := by decide
  have haccepted : ∃ s t, RuleSet.ofFields c.symMap = .ok s ∧
      RuleTable.ofDrafts s.drafts = .ok t := ⟨_, _, rfl, rfl⟩
  obtain ⟨s, t, hs, ht⟩ := haccepted
  have hplain : ∀ d ∈ ds, d.IsPlain := by
    simp only [ds, List.forall_mem_cons]
    exact ⟨⟨rfl, rfl⟩, ⟨rfl, rfl⟩, ⟨rfl, rfl⟩, ⟨rfl, rfl⟩, ⟨rfl, rfl⟩, ⟨rfl, rfl⟩, by simp⟩
  obtain ⟨m, r, x, hstart, -, hx, hfollows, -, hperm⟩ :=
    result_resolve_followsMap hc hkeys hs ht default [⟨"Buf", true, none⟩] hplain (by decide)
  obtain ⟨m', hstart', hx'⟩ := hperm fields.reverse (List.reverse_perm fields)
  refine ⟨m, x, m', hstart, hx, ?_, hstart', hx'⟩
  exact (hfollows.ignored _ List.mem_cons_self).mpr ⟨" - ", List.mem_cons_self, rfl⟩

end Mapper

end BindingNames
