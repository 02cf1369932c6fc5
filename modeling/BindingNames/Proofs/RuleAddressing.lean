import BindingNames.Proofs.AcceptedRules
import BindingNames.Proofs.SymbolMap
import BindingNames.Resolver
import Mathlib.Data.List.Perm.Subperm

/-!
Which rules reach a declaration. Exact rules are for one name, and a declaration looks its rules up
under one key: its symbol name if it is a member function, and its raw name otherwise. Exact rules
for another key change nothing about it, wherever they stand in the table, and exact rules for its
key can change it. Ignoring always goes by the symbol name. So the entries of a symbol map, which
are for symbol names, fail to reach a function that is no member and has a mangled name, while
entries for its raw name do reach it.
-/

namespace BindingNames

open Text (ofString)

/-- The second list is the first with members of some kind put in anywhere. -/
inductive Inserted {α : Type} (p : α → Prop) : List α → List α → Prop where
  | nil : Inserted p [] []
  | keep (a : α) {l m : List α} (h : Inserted p l m) : Inserted p (a :: l) (a :: m)
  | insert {a : α} {l m : List α} (ha : p a) (h : Inserted p l m) : Inserted p l (a :: m)

def NamingRule.IsExact (key : Text) (r : NamingRule) : Prop :=
  r.kind = .exact ∧ r.pattern = key

/-! ### Members put in -/

namespace Inserted

theorem refl {α : Type} (p : α → Prop) (l : List α) : Inserted p l l := by
  induction l with
  | nil => exact .nil
  | cons a l ih => exact .keep a ih

theorem append_left {α : Type} {p : α → Prop} {l m : List α} (h : Inserted p l m)
    (front : List α) : Inserted p (front ++ l) (front ++ m) := by
  induction front with
  | nil => exact h
  | cons a front ih => exact .keep a ih

theorem of_forall {α : Type} {p : α → Prop} {new : List α} (hnew : ∀ a ∈ new, p a)
    (l : List α) : Inserted p l (new ++ l) := by
  induction new with
  | nil => exact refl p l
  | cons a new ih =>
      exact .insert (hnew a List.mem_cons_self)
        (ih fun b hb => hnew b (List.mem_cons_of_mem a hb))

/-- What a filter takes out can be put in again. -/
theorem of_filter {α : Type} (q : α → Prop) [DecidablePred q] (l : List α) :
    Inserted (fun a => ¬ q a) (l.filter fun a => q a) l := by
  induction l with
  | nil => exact .nil
  | cons a l ih =>
      by_cases hq : q a
      · rw [List.filter_cons_of_pos (by simpa using hq)]
        exact .keep a ih
      · rw [List.filter_cons_of_neg (by simpa using hq)]
        exact .insert hq ih

theorem eq_of_forall_not {α : Type} {p : α → Prop} {l m : List α} (h : Inserted p l m)
    (hm : ∀ a ∈ m, ¬ p a) : l = m := by
  induction h with
  | nil => rfl
  | keep a h ih => rw [ih fun b hb => hm b (List.mem_cons_of_mem a hb)]
  | insert ha h ih => exact absurd ha (hm _ List.mem_cons_self)

/-- Members put in stay so when both lists are read by a function. -/
theorem of_forall₂ {α β : Type} {p : α → Prop} {q : β → Prop} {R : α → β → Prop}
    (hR : ∀ a b c, R a b → R a c → b = c) (hp : ∀ a b, p a → R a b → q b) {l m : List α}
    (h : Inserted p l m) {l' m' : List β} (hl : List.Forall₂ R l l')
    (hm : List.Forall₂ R m m') : Inserted q l' m' := by
  induction h generalizing l' m' with
  | nil =>
      cases hl
      cases hm
      exact .nil
  | keep a h ih =>
      cases hl with
      | cons hb hl =>
          cases hm with
          | cons hc hm =>
              -- both readings of the common member are the same
              cases hR _ _ _ hb hc
              exact .keep _ (ih hl hm)
  | insert ha h ih =>
      cases hm with
      | cons hb hm => exact .insert (hp _ _ ha hb) (ih hl hm)

end Inserted

/-! ### Lookups past other rules -/

theorem NamingRule.not_applies_of_isExact {r : NamingRule} {key name : Text} (h : r.IsExact key)
    (hne : name ≠ key) : ¬ r.applies name := by
  simp only [applies, h.1, h.2, beq_iff_eq]
  exact hne

namespace RuleTable

theorem search_inserted {admits : Directive → Bool} {name : Text} {p : NamingRule → Prop}
    (hskip : ∀ r, p r → ¬ (admits r.directive ∧ r.applies name)) {rules new : List NamingRule}
    (h : Inserted p rules new) (best : Option NamingRule) :
    search admits name best new = search admits name best rules := by
  induction h generalizing best with
  | nil => rfl
  | keep r h ih => simp only [search, ih]
  | insert hr h ih =>
      have hskipped := hskip _ hr
      rw [← Bool.and_eq_true, Bool.not_eq_true] at hskipped
      simp only [search, ← Bool.not_and, hskipped, Bool.not_false, if_true]
      exact ih best

/-- Rules that a lookup skips do not change what it finds. -/
theorem lookup_inserted {t u : RuleTable} {admits : Directive → Bool} {name : Text}
    {p : NamingRule → Prop} (hskip : ∀ r, p r → ¬ (admits r.directive ∧ r.applies name))
    (h : Inserted p t.rules u.rules) : u.lookup admits name = t.lookup admits name :=
  search_inserted hskip h none

theorem inserted_of_ofDrafts {drafts new : List RuleDraft} {key : Text}
    (h : Inserted (fun d => d.kind = .exact ∧ d.pattern = .text key) drafts new)
    {t u : RuleTable} (ht : ofDrafts drafts = .ok t) (hu : ofDrafts new = .ok u) :
    Inserted (NamingRule.IsExact key) t.rules u.rules := by
  refine h.of_forall₂ ?_ ?_ (ofDrafts_eq_ok_iff.mp ht) (ofDrafts_eq_ok_iff.mp hu)
  · intro d r s hr hs
    exact Except.ok.inj (hr.symm.trans hs)
  · rintro d r ⟨hkind, hpattern⟩ hcheck
    obtain ⟨rfl, -, -⟩ := RuleDraft.check_eq_ok_iff.mp hcheck
    exact ⟨hkind, Scalar.text.inj hpattern⟩

end RuleTable

namespace Resolver

def withTable (r : Resolver) (t : RuleTable) : Resolver :=
  { r with table := t }

@[simp] theorem withTable_table (r : Resolver) (t : RuleTable) : (r.withTable t).table = t := rfl

def symbol? (r : Resolver) (d : FunctionDecl) : Except Failure ResolvedSymbol :=
  (r.resolve? d).map (·.symbol)

def ruleKey (d : FunctionDecl) : Text :=
  if d.isMember then d.symbolName else d.rawName

theorem ruleKey_of_memberOf_eq_none {d : FunctionDecl} (h : d.memberOf = none) :
    ruleKey d = d.rawName := by
  simp [ruleKey, FunctionDecl.isMember, h]

theorem ruleKey_of_memberOf_eq_some {d : FunctionDecl} {owner : Text}
    (h : d.memberOf = some owner) : ruleKey d = d.symbolName := by
  simp [ruleKey, FunctionDecl.isMember, h]

/-- Resolving a declaration looks at no rules but those found under its key. -/
theorem resolve?_eq_of_lookup_eq {r : Resolver} {t : RuleTable} {d : FunctionDecl}
    (h : ∀ admits, t.lookup admits (ruleKey d) = r.table.lookup admits (ruleKey d)) :
    (r.withTable t).resolve? d = r.resolve? d := by
  cases hmember : d.memberOf with
  | some owner =>
      rw [ruleKey_of_memberOf_eq_some hmember] at h
      have hrename : t.renameRule d.symbolName = r.table.renameRule d.symbolName := h _
      simp only [resolve?, fault?, trims, FunctionDecl.isMember, resolve, resolveMember, newName,
        hmember, withTable_table, hrename]
      rfl
  | none =>
      rw [ruleKey_of_memberOf_eq_none hmember] at h
      have hrole : t.roleRule d.rawName = r.table.roleRule d.rawName := h _
      have hrename : t.renameRule d.rawName = r.table.renameRule d.rawName := h _
      simp only [resolve?, fault?, trims, FunctionDecl.isMember, resolve, resolveFree, place,
        newName, hmember, withTable_table, hrole, hrename]
      rfl

theorem resolve?_inserted {r : Resolver} {t : RuleTable} {key : Text} {d : FunctionDecl}
    (hne : key ≠ ruleKey d) (h : Inserted (NamingRule.IsExact key) r.table.rules t.rules) :
    (r.withTable t).resolve? d = r.resolve? d :=
  resolve?_eq_of_lookup_eq fun _ => RuleTable.lookup_inserted
    (fun _ hr hreached => NamingRule.not_applies_of_isExact hr hne.symm hreached.2) h

/-! ### Entries under the raw name -/

/-- A rule that keeps the function and a new name decide everything. -/
theorem symbol?_of_keepFunction {r : Resolver} {d : FunctionDecl} (hmember : d.memberOf = none)
    {rule : NamingRule} (hrole : r.table.roleRule d.rawName = some rule)
    (hkeep : rule.directive = .keepFunction) {name : Text}
    (hname : r.newName d.rawName = some name) :
    r.symbol? d = .ok (.initial d name .function false) := by
  have hfault : r.fault? d = none := by simp [fault?, trims, hrole]
  have hplace : r.place d = keptFunction d.rawName none := by simp [place, hrole, hkeep]
  have hreceiver : lacksReceiver d (keptFunction d.rawName none) = false := rfl
  simp only [symbol?, resolve?, hfault, resolve, hmember, resolveFree, hplace, hreceiver, hname]
  simp [keptFunction, Except.map]

/-- The rules that keep the function under a key and give it a name. -/
def renamingRules (key name : Text) : List NamingRule :=
  [⟨⟨.keepFunction, .exact, none, none, false⟩, key⟩,
    ⟨⟨.rename, .exact, none, some name, false⟩, key⟩]

theorem ofDrafts_renaming {key name : Text} (hkey : Identifier.accepts key)
    (hname : Identifier.accepts name) :
    RuleTable.ofDrafts [.keepFunction (.text key) .exact, .rename (.text key) .exact (some name)] =
      .ok ⟨renamingRules key name⟩ := by
  refine RuleTable.ofDrafts_eq_ok_iff.mpr (.cons ?_ (.cons ?_ .nil))
  · exact RuleDraft.check_eq_ok_iff.mpr ⟨rfl, hkey, rfl⟩
  · refine RuleDraft.check_eq_ok_iff.mpr ⟨rfl, hkey, ?_⟩
    simp [RuleDraft.bodyFault, hname]

theorem symbol?_withTable_renaming (r : Resolver) {d : FunctionDecl} (hmember : d.memberOf = none)
    (name : Text) (rest : List NamingRule) :
    (r.withTable ⟨renamingRules d.rawName name ++ rest⟩).symbol? d =
      .ok (.initial d name .function false) := by
  have hrole : RuleTable.roleRule ⟨renamingRules d.rawName name ++ rest⟩ d.rawName =
      some ⟨⟨.keepFunction, .exact, none, none, false⟩, d.rawName⟩ := by
    simp [RuleTable.roleRule, RuleTable.lookup, RuleTable.search, renamingRules,
      NamingRule.applies, Directive.isRole]
  have hrename : RuleTable.renameRule ⟨renamingRules d.rawName name ++ rest⟩ d.rawName =
      some ⟨⟨.rename, .exact, none, some name, false⟩, d.rawName⟩ := by
    simp [RuleTable.renameRule, RuleTable.lookup, RuleTable.search, renamingRules,
      NamingRule.applies, Directive.isRole]
  refine symbol?_of_keepFunction hmember hrole rfl ?_
  rw [newName, withTable_table, hrename]
  rfl

/-- An entry of a symbol map can give any declaration another name than some name. -/
theorem exists_entry_renaming (key avoided : Text) :
    ∃ (name : Text) (s : RuleSet), name ≠ avoided ∧ Identifier.accepts name ∧
      RuleSet.ofFields [(.text key, .text name)] = .ok s ∧
      s.drafts = [.keepFunction (.text key) .exact, .rename (.text key) .exact (some name)] := by
  have hpick : ∃ name ∈ ([ofString "X", ofString "Y", ofString "Z"] : List Text),
      name ∉ [key, avoided] := by
    by_contra hnone
    have hsubset : [ofString "X", ofString "Y", ofString "Z"] ⊆ [key, avoided] := by
      intro name hname
      by_contra hnot
      exact hnone ⟨name, hname, hnot⟩
    have hlength := (List.subperm_of_subset (by decide) hsubset).length_le
    simp at hlength
  obtain ⟨name, hname, hnot⟩ := hpick
  simp only [List.mem_cons, List.not_mem_nil, or_false, not_or] at hname hnot
  have hne : ¬ Scalar.text key = .text name := fun h => hnot.1 (Scalar.text.inj h).symm
  have haccepts : Identifier.accepts name := by rcases hname with rfl | rfl | rfl <;> rfl
  have hs : RuleSet.ofFields [(.text key, .text name)] =
      .ok ⟨RuleSet.mappedDrafts (.text key) name, []⟩ := by
    rcases hname with rfl | rfl | rfl <;> rfl
  refine ⟨name, _, hnot.2, haccepts, hs, ?_⟩
  rcases hname with rfl | rfl | rfl <;> exact congrArg (List.cons _) (if_neg hne)

/-- Whatever the types, the options and the other rules are, an entry of a symbol map under the raw
name of a function can change its symbol. -/
theorem exists_entry_changing (r : Resolver) {d : FunctionDecl} (hmember : d.memberOf = none)
    (hname : Identifier.accepts d.rawName) :
    ∃ (target : Text) (s : RuleSet) (t : RuleTable),
      RuleSet.ofFields [(.text d.rawName, .text target)] = .ok s ∧
      RuleTable.ofDrafts s.drafts = .ok t ∧
      (r.withTable ⟨t.rules ++ r.table.rules⟩).symbol? d ≠ r.symbol? d := by
  obtain ⟨target, s, hne, haccepts, hs, hdrafts⟩ :=
    exists_entry_renaming d.rawName (r.resolve d).symbol.baseName
  refine ⟨target, s, _, hs, hdrafts ▸ ofDrafts_renaming hname haccepts, ?_⟩
  rw [symbol?_withTable_renaming r hmember]
  cases hfault : r.fault? d with
  | some e => simp [symbol?, resolve?, hfault, Except.map]
  | none =>
      simp only [symbol?, resolve?, hfault, Except.map, ne_eq, Except.ok.injEq]
      intro h
      exact hne (congrArg ResolvedSymbol.baseName h)

end Resolver

/-! ### Addresses -/

/-- An entry put into a symbol map adds exact rules for its key. -/
theorem RuleSet.inserted_entry (front back : Fields) {key : Text} {v : Value} {s new : RuleSet}
    (hs : ofFields (front ++ back) = .ok s)
    (hnew : ofFields (front ++ (.text key, v) :: back) = .ok new) :
    Inserted (fun d => d.kind = .exact ∧ d.pattern = .text key) s.drafts new.drafts := by
  rw [(ofFields_eq_ok hs).1, (ofFields_eq_ok hnew).1, List.flatMap_append, List.flatMap_append,
    List.flatMap_cons]
  have hentry : ∀ d ∈ entryDrafts (.text key, v), d.kind = .exact ∧ d.pattern = .text key :=
    fun d hd => exact_of_mem_entryDrafts hd
  exact (Inserted.of_forall hentry _).append_left _

theorem RuleTable.accepts_of_ofDrafts {drafts : List RuleDraft} {t : RuleTable}
    (h : ofDrafts drafts = .ok t) {r : NamingRule} (hr : r ∈ t.rules) :
    Identifier.accepts r.pattern := by
  obtain ⟨d, -, hcheck⟩ := exists_draft h hr
  exact (RuleDraft.check_eq_ok_iff.mp hcheck).2.1

/-- Whether exact rules for a name that are added to a table, wherever they stand there, change the
symbol of a declaration only if the name is its symbol name. -/
def AddressedBySymbolName (d : FunctionDecl) : Prop :=
  ∀ (r : Resolver) (t : RuleTable) (key : Text), (∃ drafts, RuleTable.ofDrafts drafts = .ok t) →
    Inserted (NamingRule.IsExact key) r.table.rules t.rules →
      (r.withTable t).symbol? d ≠ r.symbol? d → key = d.symbolName

namespace Resolver

theorem addressed_of_ruleKey_eq {d : FunctionDecl} (h : ruleKey d = d.symbolName) :
    AddressedBySymbolName d := by
  intro r t key _ hadded hchanged
  by_contra hne
  rw [← h] at hne
  exact hchanged (congrArg _ (resolve?_inserted hne hadded))

/-- No table has an exact rule for a name that is not accepted. -/
theorem addressed_of_not_accepts {d : FunctionDecl} (hmember : d.memberOf = none)
    (h : ¬ Identifier.accepts d.rawName) : AddressedBySymbolName d := by
  rintro r t key ⟨drafts, htable⟩ hadded hchanged
  by_cases hkey : key = d.rawName
  · have hsame : r.table.rules = t.rules := by
      refine hadded.eq_of_forall_not ?_
      rintro rule hrule ⟨-, hpattern⟩
      rw [← hkey, ← hpattern] at h
      exact h (RuleTable.accepts_of_ofDrafts htable hrule)
    have hresolve : (r.withTable t).resolve? d = r.resolve? d :=
      resolve?_eq_of_lookup_eq fun admits => by rw [RuleTable.lookup, RuleTable.lookup, hsame]
    exact absurd (congrArg _ hresolve) hchanged
  · rw [← ruleKey_of_memberOf_eq_none hmember] at hkey
    exact absurd (congrArg _ (resolve?_inserted hkey hadded)) hchanged

theorem not_addressed {d : FunctionDecl} (hmember : d.memberOf = none)
    (hname : Identifier.accepts d.rawName) (hne : d.rawName ≠ d.symbolName) :
    ¬ AddressedBySymbolName d := by
  intro haddressed
  -- where there are no other rules, the entry under the raw name is enough
  obtain ⟨target, s, t, hs, ht, hchanged⟩ :=
    exists_entry_changing ((default : Resolver).withTable .empty) hmember hname
  have hadded : Inserted (NamingRule.IsExact d.rawName) RuleTable.empty.rules t.rules :=
    RuleTable.inserted_of_ofDrafts (RuleSet.inserted_entry [] [] rfl hs) rfl ht
  rw [withTable_table, RuleTable.empty, List.append_nil] at hchanged
  exact hne (haddressed _ t _ ⟨s.drafts, ht⟩ hadded hchanged)

/-- Rules are looked up under the symbol name of a member function and the raw name of any other,
and exact rules for another key do nothing. So a declaration is addressed by its symbol name unless
it is no member, has a raw name that is another one, and a rule for that can be written; then the
entry of a symbol map under its raw name reaches it, whatever else there is. An entry that ignores
goes by the symbol name for all. -/
theorem addressedBySymbolName_iff (d : FunctionDecl) :
    (AddressedBySymbolName d ↔
      d.isMember ∨ d.rawName = d.symbolName ∨ ¬ Identifier.accepts d.rawName) ∧
    (∀ (r : Resolver) (t : RuleTable) (key : Text), key ≠ ruleKey d →
      Inserted (NamingRule.IsExact key) r.table.rules t.rules →
        (r.withTable t).resolve? d = r.resolve? d) ∧
    (d.memberOf = none → Identifier.accepts d.rawName → ∀ r : Resolver,
      ∃ (target : Text) (s : RuleSet) (t : RuleTable),
        RuleSet.ofFields [(.text d.rawName, .text target)] = .ok s ∧
        RuleTable.ofDrafts s.drafts = .ok t ∧
        (r.withTable ⟨t.rules ++ r.table.rules⟩).symbol? d ≠ r.symbol? d) ∧
    (∀ (front back : Fields) (key : Text) (v : Value) (s new : RuleSet),
      RuleSet.ofFields (front ++ back) = .ok s →
      RuleSet.ofFields (front ++ (.text key, v) :: back) = .ok new →
        (∀ t u, RuleTable.ofDrafts s.drafts = .ok t → RuleTable.ofDrafts new.drafts = .ok u →
          Inserted (NamingRule.IsExact key) t.rules u.rules) ∧
        (new.ignores d.symbolName ↔ s.ignores d.symbolName ∨
          (RuleSet.targetText v = .ok RuleSet.ignoreMark ∧ key = d.symbolName))) := by
  refine ⟨⟨?_, ?_⟩, ?_, ?_, ?_⟩
  · intro haddressed
    by_contra hnone
    simp only [not_or, not_not] at hnone
    obtain ⟨hmember, hne, haccepts⟩ := hnone
    have hmember : d.memberOf = none := by simpa [FunctionDecl.isMember] using hmember
    exact not_addressed hmember haccepts hne haddressed
  · rintro (hmember | heq | haccepts)
    · exact addressed_of_ruleKey_eq (if_pos hmember)
    · exact addressed_of_ruleKey_eq (by rw [ruleKey, heq, ite_self])
    · by_cases hmember : d.isMember
      · exact addressed_of_ruleKey_eq (if_pos hmember)
      · exact addressed_of_not_accepts (by simpa [FunctionDecl.isMember] using hmember) haccepts
  · intro r t key hne hadded
    exact resolve?_inserted hne hadded
  · intro hmember haccepts r
    exact exists_entry_changing r hmember haccepts
  · intro front back key v s new hs hnew
    constructor
    · intro t u ht hu
      exact RuleTable.inserted_of_ofDrafts (RuleSet.inserted_entry front back hs hnew) ht hu
    · exact RuleSet.ignores_entry front back hs hnew d.symbolName

/-- A function in a namespace is addressed by its name there, and not by its symbol name. -/
theorem addressedBySymbolName_iff_namespace :
    let d := { FunctionDecl.ofName "open" with mangledName := some "_ZN2ns4openEv" }
    ¬ AddressedBySymbolName d := by
  intro d
  rw [(addressedBySymbolName_iff d).1]
  decide

end Resolver

end BindingNames
