import BindingNames.Proofs.AcceptedRules
import BindingNames.Proofs.SymbolMap
import Mathlib.Data.List.Perm.Basic

/-!
Tables of exact rules. Where all rules are exact a lookup finds the first rule that is admitted and
has the name as its pattern, and as a rule says what its draft says, the answer can be read off the
drafts. The drafts of a symbol map whose keys differ are of this kind: what is found under a name is
what the entry with this key has, or nothing without such an entry. So neither the order of the
entries nor those for other names show in a lookup.
-/

namespace BindingNames

def NamingRule.draft (r : NamingRule) : RuleDraft :=
  ⟨r.toRuleBody, .text r.pattern⟩

theorem NamingRule.draft_injective : Function.Injective NamingRule.draft := by
  rintro ⟨body, pattern⟩ ⟨body', pattern'⟩ h
  cases h
  rfl

namespace RuleTable

theorem map_draft_of_ofDrafts {drafts : List RuleDraft} {t : RuleTable}
    (h : ofDrafts drafts = .ok t) : t.rules.map NamingRule.draft = drafts := by
  have hall := ofDrafts_eq_ok_iff.mp h
  refine List.ext_getElem (by rw [List.length_map, hall.length_eq]) ?_
  intro i hi hd
  rw [List.length_map] at hi
  rw [List.getElem_map]
  exact (RuleDraft.check_eq_ok_iff.mp (hall.get hd hi)).1.symm

theorem search_of_exact {admits : Directive → Bool} {name : Text} {rules : List NamingRule}
    (h : ∀ r ∈ rules, r.kind = .exact) (best : Option NamingRule) :
    search admits name best rules =
      (rules.find? fun r => admits r.directive && name == r.pattern).or best := by
  induction rules with
  | nil => rfl
  | cons r rest ih =>
      have hkind : r.kind = .exact := h r List.mem_cons_self
      have ih := ih fun q hq => h q (List.mem_cons_of_mem r hq)
      cases hadmits : admits r.directive <;> cases hname : name == r.pattern <;>
        simp [search, NamingRule.applies, hkind, hadmits, hname, ih]

/-- In a table of exact rules the answer to a lookup can be read off the drafts. -/
theorem map_draft_lookup {drafts : List RuleDraft} {t : RuleTable} (h : ofDrafts drafts = .ok t)
    (hexact : ∀ d ∈ drafts, d.kind = .exact) (admits : Directive → Bool) (name : Text) :
    (t.lookup admits name).map NamingRule.draft =
      drafts.find? fun d => admits d.directive && d.pattern == .text name := by
  have hrules : ∀ r ∈ t.rules, r.kind = .exact := by
    intro r hr
    have hdraft : r.draft ∈ drafts := by
      rw [← map_draft_of_ofDrafts h]
      exact List.mem_map_of_mem hr
    exact hexact r.draft hdraft
  have htest : (fun r : NamingRule => admits r.directive && name == r.pattern) =
      (fun d : RuleDraft => admits d.directive && d.pattern == .text name) ∘ NamingRule.draft := by
    funext r
    have heq : (name == r.pattern) = (Scalar.text r.pattern == .text name) := by
      rw [Bool.eq_iff_iff, beq_iff_eq, beq_iff_eq, Scalar.text.injEq]
      exact eq_comm
    simp [NamingRule.draft, heq]
  rw [lookup, search_of_exact hrules, Option.or_none, htest, ← List.find?_map,
    map_draft_of_ofDrafts h]

/-- Whether a table accepts drafts does not depend on their order. -/
theorem exists_ofDrafts_of_perm {drafts drafts' : List RuleDraft} (h : drafts'.Perm drafts)
    {t : RuleTable} (ht : ofDrafts drafts = .ok t) : ∃ t', ofDrafts drafts' = .ok t' := by
  have hsource : drafts'.Perm (t.rules.map NamingRule.draft) := by
    rwa [map_draft_of_ofDrafts ht]
  have hcheck : ∀ r ∈ t.rules, r.draft.check = .ok r := by
    intro r hr
    obtain ⟨d, -, hd⟩ := exists_draft ht hr
    obtain ⟨rfl, -⟩ := RuleDraft.check_eq_ok_iff.mp hd
    exact hd
  have hall : ∀ d ∈ drafts', ∃ r, d.check = .ok r := by
    intro d hd
    obtain ⟨r, hr, rfl⟩ := List.mem_map.mp (hsource.subset hd)
    exact ⟨r, hcheck r hr⟩
  clear h hsource
  induction drafts' with
  | nil => exact ⟨.empty, rfl⟩
  | cons d rest ih =>
      obtain ⟨r, hr⟩ := hall d List.mem_cons_self
      obtain ⟨t', ht'⟩ := ih fun e he => hall e (List.mem_cons_of_mem d he)
      exact ⟨⟨r :: t'.rules⟩, ofDrafts_eq_ok_iff.mpr (.cons hr (ofDrafts_eq_ok_iff.mp ht'))⟩

end RuleTable

namespace RuleSet

/-! ### Drafts of entries under a key -/

theorem find?_entryDrafts_of_eq (field : Scalar × Value) (p : RuleDraft → Bool) :
    (entryDrafts field).find? (fun d => p d && d.pattern == field.1) =
      (entryDrafts field).find? p := by
  rw [← List.head?_filter, ← List.head?_filter]
  refine congrArg List.head? (List.filter_congr fun d hd => ?_)
  rw [(exact_of_mem_entryDrafts hd).2, beq_self_eq_true, Bool.and_true]

theorem find?_entryDrafts_of_ne {field : Scalar × Value} {key : Scalar} (hne : field.1 ≠ key)
    (p : RuleDraft → Bool) :
    (entryDrafts field).find? (fun d => p d && d.pattern == key) = none := by
  rw [List.find?_eq_none]
  intro d hd
  simp [(exact_of_mem_entryDrafts hd).2, hne]

theorem find?_drafts_of_not_mem {fields : Fields} {key : Scalar}
    (h : key ∉ fields.map (·.1)) (p : RuleDraft → Bool) :
    (fields.flatMap entryDrafts).find? (fun d => p d && d.pattern == key) = none := by
  rw [List.find?_flatMap, List.findSome?_eq_none_iff]
  intro field hfield
  refine find?_entryDrafts_of_ne (fun heq => h ?_) p
  exact List.mem_map.mpr ⟨field, hfield, heq⟩

/-- Entries with other keys do not disturb what is found under the key of an entry. -/
theorem find?_drafts_of_mem {fields : Fields} (hkeys : (fields.map (·.1)).Nodup)
    {field : Scalar × Value} (h : field ∈ fields) (p : RuleDraft → Bool) :
    (fields.flatMap entryDrafts).find? (fun d => p d && d.pattern == field.1) =
      (entryDrafts field).find? p := by
  induction fields with
  | nil => contradiction
  | cons first rest ih =>
      rw [List.map_cons, List.nodup_cons] at hkeys
      rw [List.flatMap_cons, List.find?_append]
      rcases List.mem_cons.mp h with rfl | h
      · rw [find?_entryDrafts_of_eq, find?_drafts_of_not_mem hkeys.1, Option.or_none]
      · have hne : first.1 ≠ field.1 := by
          intro heq
          exact hkeys.1 (List.mem_map.mpr ⟨field, h, heq.symm⟩)
        rw [find?_entryDrafts_of_ne hne, Option.none_or, ih hkeys.2 h]

end RuleSet

/-! ### Tables of symbol maps -/

namespace RuleTable

variable {fields : Fields} {t : RuleTable}

theorem map_draft_lookup_entries (ht : ofDrafts (fields.flatMap RuleSet.entryDrafts) = .ok t)
    (admits : Directive → Bool) (name : Text) :
    (t.lookup admits name).map NamingRule.draft =
      (fields.flatMap RuleSet.entryDrafts).find? fun d =>
        admits d.directive && d.pattern == .text name := by
  refine map_draft_lookup ht (fun d hd => ?_) admits name
  obtain ⟨field, -, hd⟩ := List.mem_flatMap.mp hd
  exact (RuleSet.exact_of_mem_entryDrafts hd).1

theorem lookup_entries_of_mem (ht : ofDrafts (fields.flatMap RuleSet.entryDrafts) = .ok t)
    (hkeys : (fields.map (·.1)).Nodup) {name : Text} {v : Value}
    (h : (.text name, v) ∈ fields) (admits : Directive → Bool) :
    (t.lookup admits name).map NamingRule.draft =
      (RuleSet.entryDrafts (.text name, v)).find? fun d => admits d.directive := by
  rw [map_draft_lookup_entries ht]
  exact RuleSet.find?_drafts_of_mem hkeys h fun d => admits d.directive

theorem lookup_entries_of_not_mem
    (ht : ofDrafts (fields.flatMap RuleSet.entryDrafts) = .ok t) {name : Text}
    (h : .text name ∉ fields.map (·.1)) (admits : Directive → Bool) :
    t.lookup admits name = none := by
  rw [← Option.map_eq_none_iff (f := NamingRule.draft), map_draft_lookup_entries ht]
  exact RuleSet.find?_drafts_of_not_mem h fun d => admits d.directive

/-- A lookup depends on the entries for the name alone, and not on where they stand. -/
theorem lookup_entries_congr (ht : ofDrafts (fields.flatMap RuleSet.entryDrafts) = .ok t)
    (hkeys : (fields.map (·.1)).Nodup) {fields' : Fields} {t' : RuleTable}
    (ht' : ofDrafts (fields'.flatMap RuleSet.entryDrafts) = .ok t')
    (hkeys' : (fields'.map (·.1)).Nodup) {name : Text}
    (hsame : ∀ v, (.text name, v) ∈ fields' ↔ (.text name, v) ∈ fields)
    (admits : Directive → Bool) : t'.lookup admits name = t.lookup admits name := by
  by_cases hname : .text name ∈ fields.map (·.1)
  · obtain ⟨⟨key, v⟩, hmem, rfl⟩ := List.mem_map.mp hname
    refine Option.map_injective NamingRule.draft_injective ?_
    rw [lookup_entries_of_mem ht hkeys hmem,
      lookup_entries_of_mem ht' hkeys' ((hsame v).mpr hmem)]
  · have hname' : .text name ∉ fields'.map (·.1) := by
      intro hmem
      obtain ⟨⟨key, v⟩, hmem, rfl⟩ := List.mem_map.mp hmem
      exact hname (List.mem_map.mpr ⟨_, (hsame v).mp hmem, rfl⟩)
    rw [lookup_entries_of_not_mem ht hname, lookup_entries_of_not_mem ht' hname']

end RuleTable

end BindingNames
