import BindingNames.Identifier
import BindingNames.NameStyle
import BindingNames.Text.Piece

/-!
Texts of word characters: the letters and digits of ASCII and the underscore. What is done to a
name on its way to a binding keeps it within them. A style moves letters between cases, takes
underscores out and puts an X in front, and a number behind a name adds digits.
-/

namespace BindingNames.Text

def IsWord (s : Text) : Prop :=
  ∀ c ∈ s, Identifier.isWordChar c

instance (s : Text) : Decidable (IsWord s) :=
  inferInstanceAs (Decidable (∀ c ∈ s, Identifier.isWordChar c = true))

theorem isWord_nil : IsWord [] := by
  intro c hc
  contradiction

theorem isWord_cons {c : Code} {s : Text} :
    IsWord (c :: s) ↔ Identifier.isWordChar c ∧ IsWord s := by
  simp [IsWord]

theorem isWord_append {s t : Text} : IsWord (s ++ t) ↔ IsWord s ∧ IsWord t := by
  simp only [IsWord, List.mem_append]
  constructor
  · intro h
    exact ⟨fun c hc => h c (.inl hc), fun c hc => h c (.inr hc)⟩
  · rintro ⟨hs, ht⟩ c (hc | hc)
    · exact hs c hc
    · exact ht c hc

theorem IsWord.of_subset {s t : Text} (ht : IsWord t) (h : s ⊆ t) : IsWord s :=
  fun c hc => ht c (h hc)

theorem isWord_of_isIdentifier {s : Text} (h : Identifier.isIdentifier s) : IsWord s :=
  List.all_eq_true.mp (Identifier.all_isWordChar_of_isIdentifier h)

/-! ### Single characters -/

theorem toNat_lt_of_isWordChar {c : Code} (h : Identifier.isWordChar c) : c.toNat < 128 := by
  cases c with
  | half i => simp [Identifier.isWordChar, Code.isAlphanum] at h
  | char c =>
      have halpha : c.isAlpha = (c.isUpper || c.isLower) := rfl
      have hupper : c.isUpper = decide ('A'.val ≤ c.val ∧ c.val ≤ 'Z'.val) := rfl
      have hlower : c.isLower = (decide ('a'.val ≤ c.val) && decide (c.val ≤ 'z'.val)) := rfl
      simp only [Identifier.isWordChar, Code.isAlphanum, Char.isAlphanum, halpha, hupper, hlower,
        Char.isDigit, Bool.or_eq_true, Bool.and_eq_true, decide_eq_true_eq, beq_iff_eq,
        Code.char.injEq] at h
      have hval : c.toNat = c.val.toNat := rfl
      simp only [Code.toNat_char, hval]
      rcases h with ((⟨-, h⟩ | ⟨-, h⟩) | ⟨-, h⟩) | rfl
      · exact Nat.lt_of_le_of_lt (UInt32.le_iff_toNat_le.mp h) (by decide)
      · exact Nat.lt_of_le_of_lt (UInt32.le_iff_toNat_le.mp h) (by decide)
      · exact Nat.lt_of_le_of_lt (UInt32.le_iff_toNat_le.mp h) (by decide)
      · decide

/-- The characters of ASCII are few enough to look at each. -/
theorem forall_of_lt {P : Code → Prop} (h : ∀ n < 128, P (.char (Char.ofNat n))) {c : Code}
    (hc : c.toNat < 128) : P c := by
  cases c with
  | half i =>
      simp only [Code.toNat, firstHalf] at hc
      omega
  | char c =>
      have hchar := h c.toNat hc
      rwa [Char.ofNat_toNat] at hchar

theorem isWordChar_toUpper {c : Code} (h : Identifier.isWordChar c) :
    Identifier.isWordChar c.toUpper := by
  have hascii : ∀ n < 128, Identifier.isWordChar (.char (Char.ofNat n)) →
      Identifier.isWordChar (Code.toUpper (.char (Char.ofNat n))) := by
    decide +kernel
  exact forall_of_lt (P := fun c => Identifier.isWordChar c → Identifier.isWordChar c.toUpper)
    hascii (toNat_lt_of_isWordChar h) h

theorem isWord_upperOf {c : Code} (h : Identifier.isWordChar c) : IsWord (upperOf c) := by
  rw [upperOf_of_lt (toNat_lt_of_isWordChar h)]
  exact isWord_cons.mpr ⟨isWordChar_toUpper h, isWord_nil⟩

theorem isWord_ofNat (n : Nat) : IsWord (ofNat n) := by
  intro c hc
  obtain ⟨d, hd, rfl⟩ := List.mem_map.mp hc
  have hdigit := Nat.isDigit_of_mem_toDigits (by omega) (by omega) hd
  simp [Identifier.isWordChar, Code.isAlphanum, Char.isAlphanum, hdigit]

theorem mem_of_mem_pieces {p : Code → Bool} {cs w : Text} {c : Code} (hw : w ∈ pieces p cs)
    (hc : c ∈ w) : c ∈ cs := by
  induction cs generalizing w with
  | nil => simp_all [pieces]
  | cons d ds ih =>
      simp only [pieces] at hw
      split at hw
      · rcases List.mem_cons.mp hw with rfl | hw
        · contradiction
        · exact List.mem_cons_of_mem d (ih hw hc)
      · cases hp : pieces p ds with
        | nil => exact absurd hp (pieces_ne_nil p ds)
        | cons v vs =>
            rw [hp] at ih
            simp only [hp, List.mem_cons] at hw
            rcases hw with rfl | hw
            · rcases List.mem_cons.mp hc with rfl | hc
              · exact List.mem_cons_self
              · exact List.mem_cons_of_mem d (ih List.mem_cons_self hc)
            · exact List.mem_cons_of_mem d (ih (List.mem_cons_of_mem v hw) hc)

end BindingNames.Text

namespace BindingNames

open Text

/-! ### Styles -/

namespace NameStyle

/-- A character stands in a text, or in the upper case of one of its characters. -/
def IsFrom (s : Text) (c : Code) : Prop :=
  c ∈ s ∨ ∃ d ∈ s, c ∈ upperOf d

theorem IsFrom.mono {s t : Text} {c : Code} (h : IsFrom s c) (hst : s ⊆ t) : IsFrom t c :=
  h.imp (fun hc => hst hc) fun ⟨d, hd, hc⟩ => ⟨d, hst hd, hc⟩

theorem isFrom_of_mem_capitalized {s : Text} {c : Code} (h : c ∈ capitalized s) : IsFrom s c := by
  cases s with
  | nil => contradiction
  | cons d ds =>
      rcases List.mem_append.mp h with h | h
      · exact .inr ⟨d, List.mem_cons_self, h⟩
      · exact .inl (List.mem_cons_of_mem d h)

theorem isFrom_of_mem_joinParts {raiseFirst : Bool} {s : Text} {c : Code}
    (h : c ∈ joinParts raiseFirst s) : IsFrom s c := by
  have hpiece : ∀ w ∈ pieces isUnderscore s, w ⊆ s := fun w hw d hd => mem_of_mem_pieces hw hd
  simp only [joinParts] at h
  split at h
  · contradiction
  · rename_i w ws heq
    rw [heq] at hpiece
    rcases List.mem_append.mp h with h | h
    · refine IsFrom.mono ?_ (hpiece w List.mem_cons_self)
      split at h
      · exact isFrom_of_mem_capitalized h
      · exact .inl h
    · obtain ⟨v, hv, hc⟩ := List.mem_flatMap.mp h
      exact (isFrom_of_mem_capitalized hc).mono (hpiece v (List.mem_cons_of_mem w hv))

theorem frontUnderscores_subset (s : Text) : frontUnderscores s ⊆ s :=
  (List.takeWhile_sublist _).subset

theorem backUnderscores_subset (s : Text) : backUnderscores s ⊆ s :=
  fun _ hc => List.mem_reverse.mp ((List.takeWhile_sublist _).subset hc)

theorem core_subset (s : Text) : core s ⊆ s := by
  intro c hc
  have hc := (List.dropWhile_sublist _).subset (List.mem_reverse.mp hc)
  exact (List.dropWhile_sublist _).subset (List.mem_reverse.mp hc)

theorem isFrom_of_mem_camelName {s : Text} {c : Code} (h : c ∈ camelName s) :
    c = .char 'X' ∨ IsFrom s c := by
  have hback : c ∈ backUnderscores s → IsFrom s c := fun hc => .inl (backUnderscores_subset s hc)
  have hparts : ∀ raise, c ∈ joinParts raise (core s) → IsFrom s c := fun _ hc =>
    (isFrom_of_mem_joinParts hc).mono (core_subset s)
  simp only [camelName] at h
  split at h
  · contradiction
  · split at h
    · exact (List.mem_cons.mp h).imp_right .inl
    · split at h
      · rcases List.mem_append.mp h with h | h
        · rcases List.mem_append.mp h with h | h
          · exact (List.mem_cons.mp h).imp_right fun hc => .inl (frontUnderscores_subset s hc)
          · exact .inr (hparts false h)
        · exact .inr (hback h)
      · rcases List.mem_append.mp h with h | h
        · exact .inr (hparts true h)
        · exact .inr (hback h)

theorem isFrom_of_mem_exportedName {s : Text} {c : Code} (h : c ∈ exportedName s) :
    c = .char 'X' ∨ IsFrom s c := by
  cases s with
  | nil => contradiction
  | cons d ds =>
      simp only [exportedName] at h
      split at h
      · exact (List.mem_cons.mp h).imp_right .inl
      · exact .inr (isFrom_of_mem_capitalized h)

/-- A style adds nothing to a name but an X and letters in upper case. -/
theorem isFrom_of_mem_apply {style : NameStyle} {s : Text} {c : Code} (h : c ∈ style.apply s) :
    c = .char 'X' ∨ IsFrom s c := by
  cases style with
  | none => exact .inr (.inl h)
  | camel => exact isFrom_of_mem_camelName h
  | exported => exact isFrom_of_mem_exportedName h

theorem isWord_apply (style : NameStyle) {s : Text} (h : IsWord s) : IsWord (style.apply s) := by
  intro c hc
  rcases isFrom_of_mem_apply hc with rfl | hc | ⟨d, hd, hc⟩
  · decide
  · exact h c hc
  · exact isWord_upperOf (h d hd) c hc

end NameStyle

end BindingNames
