import BindingNames.Text.Code
import Mathlib.Data.List.Pairwise
import Mathlib.Data.List.Perm.Basic

/-!
The order of texts, code point by code point, is linear. A list that is sorted by it without
repetition increases strictly, and a list that does so is the only one with its members.
-/

namespace BindingNames

instance : Std.IsLinearOrder Code where
  le_refl a := Nat.le_refl a.toNat
  le_trans _ _ _ := Nat.le_trans
  le_antisymm _ _ h k := Code.toNat_inj.mp (Nat.le_antisymm h k)
  le_total a b := Nat.le_total a.toNat b.toNat

instance : Std.LawfulOrderLT Code where
  lt_iff _ _ := Nat.lt_iff_le_and_not_ge

instance : Std.Trichotomous (fun a b : Code => a < b) where
  trichotomous _ _ h k := Code.toNat_inj.mp (Nat.le_antisymm (Nat.not_lt.mp k) (Nat.not_lt.mp h))

namespace Text

theorem lt_of_le_of_ne {s t : Text} (h : s ≤ t) (hne : s ≠ t) : s < t :=
  (List.le_iff_lt_or_eq.mp h).resolve_right hne

theorem pairwise_lt_of_nodup {l : List Text} (hsorted : l.Pairwise (· ≤ ·)) (hnodup : l.Nodup) :
    l.Pairwise (· < ·) :=
  hsorted.imp₂ (fun _ _ h hne => lt_of_le_of_ne h hne) hnodup

theorem pairwise_mergeSort (names : List Text) :
    (names.mergeSort fun a b => decide (a ≤ b)).Pairwise (· ≤ ·) := by
  have hsorted : (names.mergeSort fun a b => decide (a ≤ b)).Pairwise
      fun a b => decide (a ≤ b) = true := by
    apply List.pairwise_mergeSort
    · intro a b c hab hbc
      exact decide_eq_true (List.le_trans (of_decide_eq_true hab) (of_decide_eq_true hbc))
    · intro a b
      rw [Bool.or_eq_true, decide_eq_true_eq, decide_eq_true_eq]
      exact List.le_total a b
  exact hsorted.imp fun h => of_decide_eq_true h

theorem eq_of_pairwise_lt {l m : List Text} (hl : l.Pairwise (· < ·)) (hm : m.Pairwise (· < ·))
    (h : ∀ s, s ∈ l ↔ s ∈ m) : l = m := by
  have hnodup : ∀ {l : List Text}, l.Pairwise (· < ·) → l.Nodup := by
    intro l hl
    refine hl.imp fun hab heq => ?_
    exact List.lt_irrefl _ (heq ▸ hab)
  refine ((List.perm_ext_iff_of_nodup (hnodup hl) (hnodup hm)).mpr h).eq_of_pairwise ?_ hl hm
  intro a b _ _ hab hba
  exact absurd hba (List.lt_asymm hab)

end Text

end BindingNames
