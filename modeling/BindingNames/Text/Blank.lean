import BindingNames.Text.Code

/-!
Blank characters, the words they separate and the ends of lines. A text is cut into its words
at every run of blanks, and into its lines at every line end; a carriage return followed by a
line feed is one line end. Neither cut leaves a blank or a line end inside a piece.
-/

namespace BindingNames.Text

/-- The characters that separate words: the controls of layout and the space characters. -/
def isBlank (c : Code) : Bool :=
  let n := c.toNat
  (9 ≤ n && n ≤ 13) || (28 ≤ n && n ≤ 32) || n == 0x85 || n == 0xA0 || n == 0x1680 ||
    (0x2000 ≤ n && n ≤ 0x200A) || n == 0x2028 || n == 0x2029 || n == 0x202F || n == 0x205F ||
    n == 0x3000

def isLineEnd (c : Code) : Bool :=
  let n := c.toNat
  (10 ≤ n && n ≤ 13) || (28 ≤ n && n ≤ 30) || n == 0x85 || n == 0x2028 || n == 0x2029

theorem isBlank_of_isLineEnd {c : Code} (h : isLineEnd c) : isBlank c := by
  simp only [isLineEnd, isBlank, Bool.or_eq_true, Bool.and_eq_true, decide_eq_true_eq,
    beq_iff_eq] at h ⊢
  omega

/-- The pieces of a text between the characters that satisfy `p`; there is always one. -/
def pieces (p : Code → Bool) : Text → List Text
  | [] => [[]]
  | c :: cs =>
    if p c then [] :: pieces p cs
    else
      match pieces p cs with
      | [] => [[c]]
      | w :: ws => (c :: w) :: ws

theorem pieces_ne_nil (p : Code → Bool) (cs : Text) : pieces p cs ≠ [] := by
  cases cs with
  | nil => simp [pieces]
  | cons c cs =>
    simp only [pieces]
    split
    · simp
    · split <;> simp

theorem not_of_mem_pieces {p : Code → Bool} {cs w : Text} {c : Code}
    (hw : w ∈ pieces p cs) (hc : c ∈ w) : p c = false := by
  induction cs generalizing w with
  | nil => simp_all [pieces]
  | cons d ds ih =>
    simp only [pieces] at hw
    cases hd : p d with
    | true =>
      simp only [hd, if_true, List.mem_cons] at hw
      cases hw with
      | inl h => simp [h] at hc
      | inr h => exact ih h hc
    | false =>
      simp only [hd, Bool.false_eq_true, if_false] at hw
      cases hp : pieces p ds with
      | nil => exact absurd hp (pieces_ne_nil p ds)
      | cons v vs =>
        simp only [hp, List.mem_cons] at hw
        cases hw with
        | inl h =>
          subst h
          cases List.mem_cons.1 hc with
          | inl h => exact h ▸ hd
          | inr h => exact ih (hp ▸ List.mem_cons_self) h
        | inr h => exact ih (hp ▸ List.mem_cons_of_mem v h) hc

/-- The words of a text, in order: its pieces between blanks that are not empty. -/
def words (cs : Text) : List Text :=
  (pieces isBlank cs).filter (!·.isEmpty)

/-- The lines of a text, in order. A text that ends with a line end has no line after it. -/
def lines : Text → List Text
  | [] => []
  | .char '\r' :: .char '\n' :: cs => [] :: lines cs
  | c :: cs =>
    if isLineEnd c then [] :: lines cs
    else
      match lines cs with
      | [] => [[c]]
      | l :: ls => (c :: l) :: ls

/-- A text with a line feed for each carriage return, and for one before a line feed. -/
def unifyLineEnds : Text → Text
  | [] => []
  | .char '\r' :: .char '\n' :: cs => '\n' :: unifyLineEnds cs
  | .char '\r' :: cs => '\n' :: unifyLineEnds cs
  | c :: cs => c :: unifyLineEnds cs

def trimFront (cs : Text) : Text :=
  cs.dropWhile isBlank

def trimBack (cs : Text) : Text :=
  (cs.reverse.dropWhile isBlank).reverse

def trim (cs : Text) : Text :=
  trimBack (trimFront cs)

@[simp] theorem trim_nil : trim [] = [] := rfl

end BindingNames.Text
