import BindingNames.Log
import BindingNames.Identifier

/-!
Tables of naming rules. A table is built from drafts, all of which have to be well formed: the
pattern is an identifier, a rule that keeps a method names its target, and a rule that renames
has an identifier as new name. A lookup prefers the first exact rule; without one it takes the
longest pattern that begins the name, and of equally long ones the earliest.
-/

namespace BindingNames

namespace RuleDraft

def bodyFault (b : RuleBody) : Option PatternFault :=
  match b.directive with
  | .keepMethod => if (nonempty? b.target).isNone then some .noTarget else none
  | .rename =>
    match b.newName with
    | none => some (.badNewName none)
    | some s => if Identifier.accepts s then none else some (.badNewName (some s))
  | _ => none

def check (d : RuleDraft) : Except Failure NamingRule :=
  if !d.pattern.holds then throw (.badPattern d.pattern .empty)
  else
    match d.pattern with
    | .text s =>
      if !Identifier.accepts s then throw (.badPattern d.pattern .notIdentifier)
      else
        match bodyFault d.toRuleBody with
        | some fault => throw (.badPattern d.pattern fault)
        | none => return ⟨d.toRuleBody, s⟩
    | other => throw (.kind (.notMatchable (.scalar other)))

end RuleDraft

structure RuleTable where
  rules : List NamingRule
  deriving DecidableEq, Repr, Inhabited

namespace RuleTable

def empty : RuleTable := ⟨[]⟩

/-- The table of the drafts, or the failure of the first draft that is not well formed. -/
def ofDrafts (drafts : List RuleDraft) : Except Failure RuleTable :=
  return ⟨← drafts.mapM RuleDraft.check⟩

def size (t : RuleTable) : Nat :=
  t.rules.length

/-- Goes through the rules with the longest pattern seen so far, and stops at an exact rule. -/
def search (admits : Directive → Bool) (name : Text) (best : Option NamingRule) :
    List NamingRule → Option NamingRule
  | [] => best
  | r :: rest =>
    if !admits r.directive || !r.applies name then search admits name best rest
    else
      match r.kind with
      | .exact => some r
      | .leading =>
        match best with
        | none => search admits name (some r) rest
        | some b =>
          if b.pattern.length < r.pattern.length then search admits name (some r) rest
          else search admits name best rest

def lookup (t : RuleTable) (admits : Directive → Bool) (name : Text) : Option NamingRule :=
  search admits name none t.rules

def roleRule (t : RuleTable) (name : Text) : Option NamingRule :=
  t.lookup Directive.isRole name

def renameRule (t : RuleTable) (name : Text) : Option NamingRule :=
  t.lookup (!·.isRole) name

/-- What a lookup finds was the best so far or is a rule of the list that applies. -/
theorem search_mem {admits : Directive → Bool} {name : Text} {best : Option NamingRule}
    {rules : List NamingRule} {r : NamingRule} (h : search admits name best rules = some r) :
    best = some r ∨ (r ∈ rules ∧ admits r.directive ∧ r.applies name) := by
  induction rules generalizing best with
  | nil => exact .inl h
  | cons q rest ih =>
    simp only [search] at h
    split at h
    · cases ih h with
      | inl h => exact .inl h
      | inr h => exact .inr ⟨List.mem_cons_of_mem _ h.1, h.2⟩
    · rename_i hq
      have hq : admits q.directive = true ∧ q.applies name = true := by
        cases ha : admits q.directive <;> cases hb : q.applies name <;> simp_all
      have later {b : Option NamingRule} (h : search admits name b rest = some r)
          (hb : b = some r → best = some r ∨ q = r) :
          best = some r ∨ (r ∈ q :: rest ∧ admits r.directive ∧ r.applies name) := by
        cases ih h with
        | inl h =>
          cases hb h with
          | inl h => exact .inl h
          | inr h => exact .inr (h ▸ ⟨List.mem_cons_self, hq⟩)
        | inr h => exact .inr ⟨List.mem_cons_of_mem _ h.1, h.2⟩
      split at h
      · cases h
        exact .inr ⟨List.mem_cons_self, hq⟩
      · split at h
        · exact later h fun e => .inr (Option.some.inj e)
        · split at h
          · exact later h fun e => .inr (Option.some.inj e)
          · exact later h fun e => .inl e

theorem lookup_mem {t : RuleTable} {admits : Directive → Bool} {name : Text} {r : NamingRule}
    (h : t.lookup admits name = some r) :
    r ∈ t.rules ∧ admits r.directive ∧ r.applies name := by
  cases search_mem h with
  | inl h => cases h
  | inr h => exact h

def builtEntry (t : RuleTable) : Entry :=
  ⟨"symmap.resolver.rule_table", Level.debug,
    "RuleTable built with " ++ Text.ofNat t.size ++ " rules"⟩

end RuleTable

end BindingNames
