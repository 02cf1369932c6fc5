import BindingNames.Proofs.MappedFunctions
import BindingNames.Proofs.RulePriority

/-!
The order of rules. Two rules of one kind that match the same name and have patterns of the same
length have the same pattern, so a lookup only has to choose between rules of different length or
kind, where their order does not count, and between rules for one pattern, where it does. The rule
that has priority is thus the first one for its pattern. Sources may list rules for different
patterns in any order: nothing that is looked up changes, and neither does what a mapper makes of
the declarations.
-/

namespace BindingNames

/-- One list of drafts is another one in a different order, where the drafts of each kind for each
pattern come in the same order as before. -/
structure RuleDraft.Reordered (drafts drafts' : List RuleDraft) : Prop where
  perm : drafts'.Perm drafts
  order : ∀ kind pattern, drafts'.filter (fun d => d.kind = kind ∧ d.pattern = pattern) =
    drafts.filter fun d => d.kind = kind ∧ d.pattern = pattern

/-! ### Rules for one pattern -/

/-- Two rules of one kind that match a name are told apart by the lengths of their patterns. -/
theorem NamingRule.pattern_eq_of_matches {q r : NamingRule} {name : Text} (hq : q.Matches name)
    (hr : r.Matches name) (hkind : q.kind = r.kind)
    (hlength : q.pattern.length = r.pattern.length) : q.pattern = r.pattern := by
  cases hr' : r.kind with
  | exact =>
      simp only [Matches, hkind, hr'] at hq hr
      exact hq.symm.trans hr
  | leading =>
      simp only [Matches, hkind, hr'] at hq hr
      exact (List.prefix_of_prefix_length_le hq hr hlength.le).eq_of_length hlength

theorem NamingRule.length_of_matches_of_exact {r : NamingRule} {name : Text}
    (hr : r.Matches name) (hkind : r.kind = .exact) : r.pattern.length = name.length := by
  simp only [Matches, hkind] at hr
  rw [hr]

namespace RuleTable

def rulesFor (kind : MatchKind) (pattern : Text) (rules : List NamingRule) : List NamingRule :=
  rules.filter fun r => r.kind = kind ∧ r.pattern = pattern

variable {admits : Directive → Bool} {name : Text} {r : NamingRule} {rules rules' : List NamingRule}

theorem mem_iff_mem_rulesFor : r ∈ rules ↔ r ∈ rulesFor r.kind r.pattern rules := by
  simp [rulesFor]

theorem rulesFor_matching (kind : MatchKind) (pattern : Text) :
    rulesFor kind pattern (matching admits name rules) =
      matching admits name (rulesFor kind pattern rules) := by
  simp only [rulesFor, matching, List.filter_comm]

/-- Among rules that match a name, one has priority if it is the first for its pattern, and either
exact or at least as long as all others, none of which is exact. -/
theorem hasPriority_iff_of_matches (hmatch : ∀ q ∈ rules, q.Matches name) :
    HasPriority r rules ↔
      (rulesFor r.kind r.pattern rules).head? = some r ∧
        (r.kind = .exact ∨ ∀ q ∈ rules, q.kind ≠ .exact ∧ q.pattern.length ≤ r.pattern.length) := by
  simp only [rulesFor, List.head?_filter, List.find?_eq_some_iff_append]
  constructor
  · intro h
    cases h with
    | exact hexact hbefore =>
        refine ⟨⟨by simp, _, _, rfl, fun q hq => ?_⟩, .inl hexact⟩
        simp [hexact, hbefore q hq]
    | longest hexact hbefore hafter =>
        refine ⟨⟨by simp, _, _, rfl, fun q hq => ?_⟩, .inr fun q hq => ⟨hexact q hq, ?_⟩⟩
        · have hne : q.pattern ≠ r.pattern := by
            intro heq
            exact absurd (hbefore q hq) (by rw [heq]; exact Nat.lt_irrefl _)
          simp [hne]
        · rcases List.mem_append.mp hq with hq | hq
          · exact (hbefore q hq).le
          · rcases List.mem_cons.mp hq with rfl | hq
            · exact Nat.le_refl _
            · exact hafter q hq
  · rintro ⟨⟨-, before, after, rfl, hbefore⟩, hrest⟩
    have hr : r.Matches name := hmatch r (by simp)
    -- what stands in front of the first rule for its pattern has another one
    have hother : ∀ q ∈ before, q.kind = r.kind → q.pattern.length ≠ r.pattern.length := by
      intro q hq hkind hlength
      have hpattern := NamingRule.pattern_eq_of_matches (hmatch q (by simp [hq])) hr hkind hlength
      simpa [hkind, hpattern] using hbefore q hq
    rcases hrest with hexact | hlongest
    · refine .exact hexact fun q hq hkind => hother q hq (hkind.trans hexact.symm) ?_
      rw [NamingRule.length_of_matches_of_exact (hmatch q (by simp [hq])) hkind,
        NamingRule.length_of_matches_of_exact hr hexact]
    · have hkind : ∀ q ∈ before ++ r :: after, q.kind = .leading := by
        intro q hq
        cases hq' : q.kind with
        | exact => exact absurd hq' (hlongest q hq).1
        | leading => rfl
      refine .longest (fun q hq => (hlongest q hq).1) (fun q hq => ?_) fun q hq => ?_
      · have hq' : q ∈ before ++ r :: after := List.mem_append_left _ hq
        have hsame : q.kind = r.kind := (hkind q hq').trans (hkind r (by simp)).symm
        exact Nat.lt_of_le_of_ne (hlongest q hq').2 (hother q hq hsame)
      · exact (hlongest q (by simp [hq])).2

/-! ### Lookups -/

theorem hasPriority_matching_congr
    (h : ∀ kind pattern, rulesFor kind pattern rules' = rulesFor kind pattern rules) :
    HasPriority r (matching admits name rules') ↔ HasPriority r (matching admits name rules) := by
  have hgroup : ∀ kind pattern, rulesFor kind pattern (matching admits name rules') =
      rulesFor kind pattern (matching admits name rules) := by
    intro kind pattern
    rw [rulesFor_matching, rulesFor_matching, h]
  have hmem : ∀ q, q ∈ matching admits name rules' ↔ q ∈ matching admits name rules := by
    intro q
    rw [mem_iff_mem_rulesFor, hgroup, ← mem_iff_mem_rulesFor]
  have hmatch : ∀ all : List NamingRule, ∀ q ∈ matching admits name all, q.Matches name := by
    intro all q hq
    simp only [matching, List.mem_filter, decide_eq_true_eq] at hq
    exact hq.2.2
  rw [hasPriority_iff_of_matches (hmatch rules'), hasPriority_iff_of_matches (hmatch rules), hgroup]
  simp only [hmem]

/-- A lookup depends on the rules for each pattern alone. -/
theorem lookup_congr {t t' : RuleTable}
    (h : ∀ kind pattern, rulesFor kind pattern t'.rules = rulesFor kind pattern t.rules)
    (admits : Directive → Bool) (name : Text) : t'.lookup admits name = t.lookup admits name := by
  have hpriority : ∀ (u : RuleTable) (r : NamingRule), u.lookup admits name = some r →
      HasPriority r (matching admits name u.rules) :=
    fun u r hr => (search_hasPriority (by simp)).2 r hr
  have hnone : ∀ u : RuleTable, u.lookup admits name = none → matching admits name u.rules = [] :=
    fun u hu => (search_hasPriority (by simp)).1 hu
  cases hfound : t.lookup admits name with
  | some r =>
      have hr := (hasPriority_matching_congr h).mpr (hpriority t r hfound)
      cases hfound' : t'.lookup admits name with
      | some q => rw [(hpriority t' q hfound').unique hr]
      | none => exact absurd (hnone t' hfound' ▸ hr) HasPriority.not_nil
  | none =>
      cases hfound' : t'.lookup admits name with
      | some q =>
          have hq := (hasPriority_matching_congr h).mp (hpriority t' q hfound')
          exact absurd (hnone t hfound ▸ hq) HasPriority.not_nil
      | none => rfl

/-! ### Tables of drafts in another order -/

theorem map_draft_rulesFor {drafts : List RuleDraft} {t : RuleTable}
    (ht : ofDrafts drafts = .ok t) (kind : MatchKind) (pattern : Text) :
    (rulesFor kind pattern t.rules).map NamingRule.draft =
      drafts.filter fun d => d.kind = kind ∧ d.pattern = .text pattern := by
  rw [← map_draft_of_ofDrafts ht, List.filter_map]
  refine congrArg (List.map NamingRule.draft) (List.filter_congr fun r _ => ?_)
  have hpattern : r.pattern = pattern ↔ r.draft.pattern = .text pattern :=
    (Scalar.text.injEq r.pattern pattern).to_iff.symm
  exact decide_eq_decide.mpr (and_congr_right fun _ => hpattern)

/-- Drafts in another order are accepted too, and the same is found in their table. -/
theorem exists_ofDrafts_of_reordered {drafts drafts' : List RuleDraft}
    (h : RuleDraft.Reordered drafts drafts') {t : RuleTable} (ht : ofDrafts drafts = .ok t) :
    ∃ t', ofDrafts drafts' = .ok t' ∧
      ∀ admits name, t'.lookup admits name = t.lookup admits name := by
  obtain ⟨t', ht'⟩ := exists_ofDrafts_of_perm h.perm ht
  refine ⟨t', ht', lookup_congr fun kind pattern => ?_⟩
  refine List.map_injective_iff.mpr NamingRule.draft_injective ?_
  rw [map_draft_rulesFor ht, map_draft_rulesFor ht', h.order]

end RuleTable

/-! ### Runs with other sources of rules -/

def Configuration.withRules (c : Configuration) (source entries : Value) (symMap : Fields) :
    Configuration :=
  { c with rulesSource := source, rules := entries, symMap := symMap }

namespace Mapper

theorem resolver_withRules {m m' : Mapper} {source entries : Value} {symMap : Fields}
    (hconfig : m'.config = m.config.withRules source entries symMap) (types : List TypeDecl) :
    m'.resolver types = (m.resolver types).map (·.withTable m'.table) := by
  refine resolver_eq_map ?_ ?_ fun style trimming => ?_ <;> rw [hconfig] <;> rfl

/-- The rules of one mapper that were listed in another order for another one are found there too,
so that it resolves all declarations in the same way. -/
theorem snd_resolve_of_lookup_eq {m m' : Mapper} {source entries : Value} {symMap : Fields}
    (hconfig : m'.config = m.config.withRules source entries symMap)
    (hlookup : ∀ admits name, m'.table.lookup admits name = m.table.lookup admits name)
    (hignores : ∀ symbol, m'.rules.ignores symbol = m.rules.ignores symbol)
    (types : List TypeDecl) (ds : List FunctionDecl) :
    (m'.resolve types ds).2 = (m.resolve types ds).2 := by
  refine snd_resolve_congr (resolver_withRules hconfig types) (fun r hr d => ?_) ?_
  · refine Resolver.resolve?_eq_of_lookup_eq fun admits => ?_
    rw [hlookup, (resolver_eq_fields hr).2]
  · simp only [kept, hignores]

/-- Where a table accepts rules it accepts them in any other order that keeps the order of the rules
of each kind for each pattern, and every lookup finds the same rule. So configurations that differ
in where and in what order they list such rules, and ignore the same symbols, have mappers that
give the same symbols and warnings, or fail in the same way, for all types and declarations; even
what they log is the same. -/
theorem lookup_and_resolve_of_reordered {drafts drafts' : List RuleDraft}
    (h : RuleDraft.Reordered drafts drafts') {t : RuleTable}
    (ht : RuleTable.ofDrafts drafts = .ok t) :
    ∃ t', RuleTable.ofDrafts drafts' = .ok t' ∧
      (∀ admits name, t'.lookup admits name = t.lookup admits name) ∧
      ∀ (c : Configuration) (source entries : Value) (symMap : Fields) (disk disk' : Disk)
        (ignored ignored' : List Scalar),
        (loadRules disk c).result = .ok ⟨drafts, ignored⟩ →
        (loadRules disk' (c.withRules source entries symMap)).result = .ok ⟨drafts', ignored'⟩ →
        (∀ symbol, Scalar.text symbol ∈ ignored' ↔ Scalar.text symbol ∈ ignored) →
          ∃ m m', (start disk c).result = .ok m ∧
            (start disk' (c.withRules source entries symMap)).result = .ok m' ∧
            ∀ types ds, (m'.resolve types ds).2 = (m.resolve types ds).2 := by
  obtain ⟨t', ht', hlookup⟩ := RuleTable.exists_ofDrafts_of_reordered h ht
  refine ⟨t', ht', hlookup, ?_⟩
  intro c source entries symMap disk disk' ignored ignored' hrules hrules' hignored
  let m : Mapper := ⟨c, t, ⟨drafts, ignored⟩, .zero⟩
  let m' : Mapper :=
    ⟨c.withRules source entries symMap, t', ⟨drafts', ignored'⟩, .zero⟩
  refine ⟨m, m', result_start hrules ht, result_start hrules' ht', ?_⟩
  refine snd_resolve_of_lookup_eq (m := m) rfl hlookup fun symbol => ?_
  rw [Bool.eq_iff_iff, RuleSet.ignores_iff, RuleSet.ignores_iff]
  exact hignored symbol

/-- The rules for one function are listed apart from each other among those for other names, or as
the entry of a symbol map behind the others, which have changed places. -/
theorem lookup_and_resolve_of_reordered_symbolMap :
    let entry : List (Text × Value) → Value :=
      fun fields => .map (fields.map fun field => (.text field.1, field.2))
    let strip := entry
      [("match", .text "Foo"), ("prefix", .bool true), ("directive", .text "strip_prefix")]
    let keep := entry
      [("match", .text "Foo_"), ("prefix", .bool true), ("directive", .text "keep_function")]
    let keepOpen := entry [("match", .text "Foo_open"), ("directive", .text "keep_function")]
    let renameOpen := entry
      [("match", .text "Foo_open"), ("directive", .text "rename"), ("name", .text "Start")]
    let c : Configuration :=
      { Configuration.unset with rules := .list [strip, keepOpen, keep, renameOpen] }
    let c' := c.withRules .null (.list [keep, strip]) [(.text "Foo_open", .text "Start")]
    let drafts : List RuleDraft :=
      [.stripOwner (.text "Foo") .leading none, .keepFunction (.text "Foo_open") .exact,
        .keepFunction (.text "Foo_") .leading, .rename (.text "Foo_open") .exact (some "Start")]
    let drafts' : List RuleDraft :=
      [.keepFunction (.text "Foo_") .leading, .stripOwner (.text "Foo") .leading none,
        .keepFunction (.text "Foo_open") .exact, .rename (.text "Foo_open") .exact (some "Start")]
    RuleDraft.Reordered drafts drafts' ∧ (∃ t, RuleTable.ofDrafts drafts = .ok t) ∧
      (loadRules default c).result = .ok ⟨drafts, []⟩ ∧
      (loadRules default c').result = .ok ⟨drafts', []⟩ ∧
      ∃ m m', (start default c).result = .ok m ∧ (start default c').result = .ok m' ∧
        ∀ types ds, (m'.resolve types ds).2 = (m.resolve types ds).2 := by
  intro entry strip keep keepOpen renameOpen c c' drafts drafts'
  have h : RuleDraft.Reordered drafts drafts' := by
    refine ⟨by decide, fun kind pattern => ?_⟩
    cases kind with
    | exact =>
        simp [drafts, drafts', List.filter_cons, RuleDraft.stripOwner, RuleDraft.keepFunction,
          RuleDraft.rename]
    | leading =>
        by_cases hstrip : Scalar.text "Foo" = pattern
        · subst hstrip
          rfl
        · simp [drafts, drafts', List.filter_cons, hstrip, RuleDraft.stripOwner,
            RuleDraft.keepFunction, RuleDraft.rename]
  obtain ⟨t, ht⟩ : ∃ t, RuleTable.ofDrafts drafts = .ok t := ⟨_, rfl⟩
  have hrules : (loadRules default c).result = .ok ⟨drafts, []⟩ := rfl
  have hrules' : (loadRules default c').result = .ok ⟨drafts', []⟩ := rfl
  obtain ⟨t', -, -, hruns⟩ := lookup_and_resolve_of_reordered h ht
  exact ⟨h, ⟨t, ht⟩, hrules, hrules',
    hruns c .null (.list [keep, strip]) _ default default [] [] hrules hrules' fun _ => Iff.rfl⟩

end Mapper

end BindingNames
