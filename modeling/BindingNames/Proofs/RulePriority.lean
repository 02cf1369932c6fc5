import BindingNames.RuleTable
import Mathlib.Data.List.Basic

/-!
Which rule a lookup finds. The rules that match a name and whose directive is admitted compete in
the order of the table. The first exact rule wins. If none of them is exact, the longest pattern
wins, and of equally long ones the earliest. A lookup goes through the table once with the best
rule so far, so that rule has to be seen as a competitor in front of those still to come: a longer
one outdoes it, and one that is no longer can be struck out behind it.
-/

namespace BindingNames

/-- A rule matches a name when its pattern is the name, or begins it. -/
def NamingRule.Matches (r : NamingRule) (name : Text) : Prop :=
  match r.kind with
  | .exact => name = r.pattern
  | .leading => r.pattern <+: name

theorem NamingRule.applies_iff {r : NamingRule} {name : Text} :
    r.applies name ↔ r.Matches name := by
  cases hkind : r.kind with
  | exact => simp [applies, Matches, hkind]
  | leading => simp [applies, Matches, hkind, Text.beginsWith_iff]

instance (r : NamingRule) (name : Text) : Decidable (r.Matches name) :=
  decidable_of_iff _ NamingRule.applies_iff

namespace RuleTable

def matching (admits : Directive → Bool) (name : Text) (rules : List NamingRule) :
    List NamingRule :=
  rules.filter fun r => admits r.directive ∧ r.Matches name

/-- The rule goes before all others of a list: it is the first exact one, or there is no exact one
and it is the earliest of those with the longest patterns. -/
inductive HasPriority (r : NamingRule) : List NamingRule → Prop where
  | exact {before after : List NamingRule} (hexact : r.kind = .exact)
      (hbefore : ∀ q ∈ before, q.kind ≠ .exact) : HasPriority r (before ++ r :: after)
  | longest {before after : List NamingRule}
      (hexact : ∀ q ∈ before ++ r :: after, q.kind ≠ .exact)
      (hbefore : ∀ q ∈ before, q.pattern.length < r.pattern.length)
      (hafter : ∀ q ∈ after, q.pattern.length ≤ r.pattern.length) :
      HasPriority r (before ++ r :: after)

variable {r b q : NamingRule} {rules : List NamingRule}

namespace HasPriority

theorem not_nil : ¬ HasPriority r [] := by
  intro h
  generalize hrules : ([] : List NamingRule) = rules at h
  cases h <;> simp at hrules

/-! ### One more competitor -/

/-- A rule with a shorter pattern in front changes nothing. -/
theorem cons_shorter (h : HasPriority r (q :: rules)) (hb : b.kind ≠ .exact)
    (hshort : b.pattern.length < q.pattern.length) : HasPriority r (b :: q :: rules) := by
  generalize hlist : q :: rules = list at h
  cases h with
  | @exact before after hexact hbefore =>
      exact @HasPriority.exact r (b :: before) after hexact
        (List.forall_mem_cons.mpr ⟨hb, hbefore⟩)
  | @longest before after hexact hbefore hafter =>
      refine @HasPriority.longest r (b :: before) after
        (List.forall_mem_cons.mpr ⟨hb, hexact⟩) ?_ hafter
      refine List.forall_mem_cons.mpr ⟨?_, hbefore⟩
      -- the rule behind it is longer, and no longer than the one that wins
      have hq : q ∈ before ++ r :: after := hlist ▸ List.mem_cons_self
      rcases List.mem_append.mp hq with hq | hq
      · exact Nat.lt_trans hshort (hbefore q hq)
      · rcases List.mem_cons.mp hq with rfl | hq
        · exact hshort
        · exact Nat.lt_of_lt_of_le hshort (hafter q hq)

/-- A rule whose pattern is no longer than that of a rule in front changes nothing. -/
theorem cons_insert (h : HasPriority r (b :: rules)) (hb : b.kind ≠ .exact)
    (hq : q.kind ≠ .exact) (hshort : q.pattern.length ≤ b.pattern.length) :
    HasPriority r (b :: q :: rules) := by
  generalize hlist : b :: rules = list at h
  cases h with
  | @exact before after hexact hbefore =>
      cases before with
      | nil =>
          obtain ⟨rfl, rfl⟩ := List.cons.inj hlist
          exact absurd hexact hb
      | cons c before =>
          obtain ⟨rfl, rfl⟩ := List.cons.inj hlist
          obtain ⟨hc, hbefore⟩ := List.forall_mem_cons.mp hbefore
          exact @HasPriority.exact r (b :: q :: before) after hexact
            (List.forall_mem_cons.mpr ⟨hc, List.forall_mem_cons.mpr ⟨hq, hbefore⟩⟩)
  | @longest before after hexact hbefore hafter =>
      cases before with
      | nil =>
          obtain ⟨rfl, rfl⟩ := List.cons.inj hlist
          obtain ⟨hr, hexact⟩ := List.forall_mem_cons.mp hexact
          exact @HasPriority.longest _ [] (q :: rules)
            (List.forall_mem_cons.mpr ⟨hr, List.forall_mem_cons.mpr ⟨hq, hexact⟩⟩) hbefore
            (List.forall_mem_cons.mpr ⟨hshort, hafter⟩)
      | cons c before =>
          obtain ⟨rfl, rfl⟩ := List.cons.inj hlist
          obtain ⟨hc, hexact⟩ := List.forall_mem_cons.mp hexact
          obtain ⟨hlonger, hbefore⟩ := List.forall_mem_cons.mp hbefore
          refine @HasPriority.longest r (b :: q :: before) after ?_ ?_ hafter
          · exact List.forall_mem_cons.mpr ⟨hc, List.forall_mem_cons.mpr ⟨hq, hexact⟩⟩
          · exact List.forall_mem_cons.mpr ⟨hlonger, List.forall_mem_cons.mpr
              ⟨Nat.lt_of_le_of_lt hshort hlonger, hbefore⟩⟩

/-! ### One winner -/

/-- Of two members of a list that differ, one stands in front of the other. -/
theorem eq_or_mem_of_append_eq {α : Type} {l m l' m' : List α} {x y : α}
    (h : l ++ x :: m = l' ++ y :: m') : x = y ∨ (x ∈ l' ∧ y ∈ m) ∨ (y ∈ l ∧ x ∈ m') := by
  rcases List.append_eq_append_iff.mp h with ⟨k, rfl, hk⟩ | ⟨k, rfl, hk⟩
  · cases k with
    | nil => exact .inl (List.cons.inj hk).1
    | cons z k =>
        obtain ⟨rfl, rfl⟩ := List.cons.inj hk
        exact .inr (.inl (by simp))
  · cases k with
    | nil => exact .inl (List.cons.inj hk).1.symm
    | cons z k =>
        obtain ⟨rfl, rfl⟩ := List.cons.inj hk
        exact .inr (.inr (by simp))

theorem unique (hr : HasPriority r rules) (hq : HasPriority q rules) : r = q := by
  cases hr with
  | @exact before after hexact hbefore =>
      generalize hlist : before ++ r :: after = list at hq
      cases hq with
      | exact hexact' hbefore' =>
          rcases eq_or_mem_of_append_eq hlist with h | ⟨h, -⟩ | ⟨h, -⟩
          · exact h
          · exact absurd hexact (hbefore' r h)
          · exact absurd hexact' (hbefore q h)
      | longest hexact' => exact absurd hexact (hexact' r (hlist ▸ by simp))
  | @longest before after hexact hbefore hafter =>
      generalize hlist : before ++ r :: after = list at hq
      cases hq with
      | exact hexact' => exact absurd hexact' (hexact q (hlist ▸ by simp))
      | longest hexact' hbefore' hafter' =>
          rcases eq_or_mem_of_append_eq hlist with h | ⟨h, h'⟩ | ⟨h, h'⟩
          · exact h
          · exact absurd (hafter q h') (Nat.not_le.mpr (hbefore' r h))
          · exact absurd (hafter' r h') (Nat.not_le.mpr (hbefore q h))

end HasPriority

/-! ### The search -/

section Search

variable {admits : Directive → Bool} {name : Text} {best : Option NamingRule} {p : NamingRule}
  {rest : List NamingRule}

theorem matching_cons_of_matches (h : admits p.directive ∧ p.Matches name) :
    matching admits name (p :: rest) = p :: matching admits name rest := by
  simp [matching, h]

theorem matching_cons_of_not_matches (h : ¬ (admits p.directive ∧ p.Matches name)) :
    matching admits name (p :: rest) = matching admits name rest := by
  simp [matching, h]

theorem matching_append (rules rest : List NamingRule) :
    matching admits name (rules ++ rest) =
      matching admits name rules ++ matching admits name rest :=
  List.filter_append ..

theorem search_cons_of_not_matches (h : ¬ (admits p.directive ∧ p.Matches name)) :
    search admits name best (p :: rest) = search admits name best rest := by
  have hskip : (!admits p.directive || !p.applies name) = true := by
    rw [← Bool.not_and, Bool.not_eq_true', Bool.eq_false_iff, ne_eq, Bool.and_eq_true,
      NamingRule.applies_iff]
    exact h
  simp only [search, hskip, if_true]

theorem search_cons_of_exact (h : admits p.directive ∧ p.Matches name) (hkind : p.kind = .exact) :
    search admits name best (p :: rest) = some p := by
  simp [search, h.1, NamingRule.applies_iff.mpr h.2, hkind]

theorem search_cons_of_leading (h : admits p.directive ∧ p.Matches name)
    (hkind : p.kind = .leading) :
    search admits name best (p :: rest) =
      if ∀ b, best = some b → b.pattern.length < p.pattern.length then
        search admits name (some p) rest
      else search admits name best rest := by
  cases best <;> simp [search, h.1, NamingRule.applies_iff.mpr h.2, hkind]

/-- A search answers with the rule that has priority among the best so far and those to come. -/
theorem search_hasPriority {rules : List NamingRule}
    (hbest : ∀ b, best = some b → b.kind ≠ .exact) :
    (search admits name best rules = none → best.toList ++ matching admits name rules = []) ∧
      ∀ r, search admits name best rules = some r →
        HasPriority r (best.toList ++ matching admits name rules) := by
  induction rules generalizing best with
  | nil =>
      refine ⟨fun h => ?_, fun r h => ?_⟩
      · cases h
        rfl
      · cases h
        have hr : r.kind ≠ .exact := hbest r rfl
        show HasPriority r ([] ++ r :: [])
        exact .longest (by simpa using hr) (by simp) (by simp)
  | cons p rest ih =>
      by_cases hp : admits p.directive ∧ p.Matches name
      · rw [matching_cons_of_matches hp]
        cases hkind : p.kind with
        | exact =>
            rw [search_cons_of_exact hp hkind]
            refine ⟨fun h => by contradiction, fun r h => ?_⟩
            cases h
            exact .exact hkind fun b hb => hbest b (Option.mem_toList.mp hb)
        | leading =>
            rw [search_cons_of_leading hp hkind]
            have hpkind : p.kind ≠ .exact := by simp [hkind]
            have hpbest : ∀ b, some p = some b → b.kind ≠ .exact := by simpa using hpkind
            cases best with
            | none => simpa using ih hpbest
            | some b =>
                have hbkind := hbest b rfl
                by_cases hlonger : b.pattern.length < p.pattern.length
                · rw [if_pos (by simpa using hlonger)]
                  obtain ⟨hnone, hsome⟩ := ih hpbest
                  refine ⟨fun h => absurd (hnone h) (by simp), fun r h => ?_⟩
                  exact (hsome r h).cons_shorter hbkind hlonger
                · rw [if_neg (by simpa using hlonger)]
                  obtain ⟨hnone, hsome⟩ := ih hbest
                  refine ⟨fun h => absurd (hnone h) (by simp), fun r h => ?_⟩
                  exact (hsome r h).cons_insert hbkind hpkind (Nat.le_of_not_lt hlonger)
      · rw [matching_cons_of_not_matches hp, search_cons_of_not_matches hp]
        exact ih hbest

/-! ### At most one rule -/

/-- Where no rule matches none is found. -/
theorem lookup_eq_none {t : RuleTable}
    (h : ∀ q ∈ t.rules, admits q.directive → ¬ q.Matches name) :
    t.lookup admits name = none := by
  refine Option.eq_none_iff_forall_ne_some.mpr fun q hq => ?_
  obtain ⟨hmem, hadmits, happlies⟩ := lookup_mem hq
  exact h q hmem hadmits (NamingRule.applies_iff.mp happlies)

/-- A rule without competitors is found. -/
theorem lookup_of_matching {t : RuleTable} (h : matching admits name t.rules = [r]) :
    t.lookup admits name = some r := by
  have hnobest : ∀ b, (none : Option NamingRule) = some b → b.kind ≠ .exact := by simp
  cases hfound : t.lookup admits name with
  | none =>
      have hempty : matching admits name t.rules = [] := (search_hasPriority hnobest).1 hfound
      rw [h] at hempty
      contradiction
  | some q =>
      obtain ⟨hmem, hadmits, happlies⟩ := lookup_mem hfound
      have hq : q ∈ matching admits name t.rules :=
        List.mem_filter.mpr ⟨hmem, by simp [hadmits, NamingRule.applies_iff.mp happlies]⟩
      rw [h, List.mem_singleton] at hq
      rw [hq]

end Search

/-- A lookup finds nothing exactly where no rule matches, and otherwise the rule that has priority
among those that do. -/
theorem lookup_iff_hasPriority (t : RuleTable) (admits : Directive → Bool) (name : Text) :
    (t.lookup admits name = none ↔ matching admits name t.rules = []) ∧
      ∀ r, t.lookup admits name = some r ↔ HasPriority r (matching admits name t.rules) := by
  have hnobest : ∀ b, (none : Option NamingRule) = some b → b.kind ≠ .exact := by simp
  obtain ⟨hnone, hsome⟩ :
      (t.lookup admits name = none → matching admits name t.rules = []) ∧
        ∀ r, t.lookup admits name = some r → HasPriority r (matching admits name t.rules) :=
    search_hasPriority hnobest
  refine ⟨⟨hnone, fun hempty => ?_⟩, fun r => ⟨hsome r, fun hr => ?_⟩⟩
  · cases hfound : t.lookup admits name with
    | none => rfl
    | some r => exact absurd (hempty ▸ hsome r hfound) HasPriority.not_nil
  · cases hfound : t.lookup admits name with
    | none => exact absurd (hnone hfound ▸ hr) HasPriority.not_nil
    | some q => rw [(hsome q hfound).unique hr]

end RuleTable

end BindingNames
