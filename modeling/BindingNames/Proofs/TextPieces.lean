import BindingNames.Text.Blank
import Mathlib.Data.List.Basic
import Mathlib.Data.List.TakeWhile

/-!
What the pieces of a text are. A piece has no separator in it, and what stands next to it on either
side, if anything does, is a separator. These two facts say all there is about the pieces, apart
from their order. The pieces of a text whose characters are exchanged are those of the text itself,
cut at the characters that are exchanged for separators. The lines of a text that are not empty are
its pieces between line ends that are not, and blanks around a text matter neither to the text once
it is trimmed nor to its words.
-/

namespace BindingNames.Text

/-- A list with a separator determines the part before it, if that has none. -/
theorem append_separator_inj {α : Type} {x : α} {a b c d : List α} (ha : x ∉ a) (hb : x ∉ b)
    (h : a ++ x :: c = b ++ x :: d) : a = b ∧ c = d := by
  induction a generalizing b with
  | nil =>
      cases b with
      | nil => exact ⟨rfl, (List.cons.inj h).2⟩
      | cons y b => exact absurd ((List.cons.inj h).1 ▸ List.mem_cons_self) hb
  | cons y a ih =>
      cases b with
      | nil => exact absurd ((List.cons.inj h).1 ▸ List.mem_cons_self) ha
      | cons z b =>
          obtain ⟨rfl, htail⟩ := List.cons.inj h
          obtain ⟨rfl, hcd⟩ := ih (fun hmem => ha (List.mem_cons_of_mem y hmem))
            (fun hmem => hb (List.mem_cons_of_mem y hmem)) htail
          exact ⟨rfl, hcd⟩

/-- A text stands in another one between separators or ends of the text. -/
def IsPiece (p : Code → Bool) (cs w : Text) : Prop :=
  ∃ before after, cs = before ++ w ++ after ∧ (∀ c ∈ w, p c = false) ∧
    (∀ c, before.getLast? = some c → p c) ∧ ∀ c, after.head? = some c → p c

theorem pieces_eq_splitOnP (p : Code → Bool) (cs : Text) : pieces p cs = cs.splitOnP p := by
  induction cs with
  | nil => simp [pieces]
  | cons c cs ih =>
      rw [List.splitOnP_cons_eq_if_modifyHead, pieces, ← ih]
      split
      · rfl
      · cases h : pieces p cs with
        | nil => exact absurd h (pieces_ne_nil p cs)
        | cons w ws => rfl

theorem pieces_append_cons {p : Code → Bool} {c : Code} (hc : p c) (s t : Text) :
    pieces p (s ++ c :: t) = pieces p s ++ pieces p t := by
  rw [pieces_eq_splitOnP, pieces_eq_splitOnP, pieces_eq_splitOnP, List.splitOnP_append_cons s t hc]

theorem pieces_of_forall_not {p : Code → Bool} {s : Text} (h : ∀ c ∈ s, p c = false) :
    pieces p s = [s] := by
  rw [pieces_eq_splitOnP, List.splitOnP_eq_singleton h]

/-- A text is one piece, or it has a first separator. -/
theorem forall_not_or_exists_first (p : Code → Bool) (cs : Text) :
    (∀ c ∈ cs, p c = false) ∨
      ∃ front c back, cs = front ++ c :: back ∧ p c ∧ ∀ x ∈ front, p x = false := by
  cases h : cs.find? p with
  | none => exact .inl (by simpa using h)
  | some c =>
      obtain ⟨hc, front, back, rfl, hfront⟩ := List.find?_eq_some_iff_append.mp h
      exact .inr ⟨front, c, back, rfl, hc, by simpa using hfront⟩

theorem isPiece_of_mem_pieces {p : Code → Bool} {cs w : Text} (h : w ∈ pieces p cs) :
    IsPiece p cs w := by
  rcases forall_not_or_exists_first p cs with hcs | ⟨front, c, back, rfl, hc, hfront⟩
  · rw [pieces_of_forall_not hcs, List.mem_singleton] at h
    subst h
    exact ⟨[], [], by simp, hcs, by simp, by simp⟩
  · rw [pieces_append_cons hc, pieces_of_forall_not hfront, List.singleton_append] at h
    rcases List.mem_cons.mp h with rfl | h
    · exact ⟨[], c :: back, by simp, hfront, by simp, by simpa using hc⟩
    · -- the piece is one of what is behind the first separator
      obtain ⟨before, after, rfl, hw, hbefore, hafter⟩ := isPiece_of_mem_pieces h
      refine ⟨front ++ c :: before, after, by simp, hw, fun x hx => ?_, hafter⟩
      rw [List.getLast?_append, List.getLast?_cons, Option.some_or] at hx
      cases hlast : before.getLast? with
      | none =>
          rw [hlast] at hx
          cases hx
          exact hc
      | some y =>
          rw [hlast] at hx
          cases hx
          exact hbefore y hlast
termination_by cs.length

theorem mem_pieces_of_isPiece {p : Code → Bool} {cs w : Text} (h : IsPiece p cs w) :
    w ∈ pieces p cs := by
  obtain ⟨before, after, rfl, hw, hbefore, hafter⟩ := h
  have hback : w ∈ pieces p (w ++ after) := by
    cases after with
    | nil =>
        rw [List.append_nil, pieces_of_forall_not hw]
        exact List.mem_singleton_self w
    | cons c after =>
        rw [pieces_append_cons (hafter c rfl), pieces_of_forall_not hw]
        exact List.mem_cons_self
  cases hlast : before.getLast? with
  | none =>
      rw [List.getLast?_eq_none_iff.mp hlast]
      simpa using hback
  | some c =>
      rw [← List.dropLast_append_getLast? _ hlast, List.append_assoc, List.append_assoc,
        List.singleton_append, pieces_append_cons (hbefore c hlast)]
      exact List.mem_append_right _ hback

theorem mem_pieces_iff {p : Code → Bool} {cs w : Text} : w ∈ pieces p cs ↔ IsPiece p cs w :=
  ⟨isPiece_of_mem_pieces, mem_pieces_of_isPiece⟩

theorem mem_words_iff {cs w : Text} : w ∈ words cs ↔ w ≠ [] ∧ IsPiece isBlank cs w := by
  rw [words, List.mem_filter, mem_pieces_iff, and_comm]
  simp

theorem pieces_map (p : Code → Bool) (f : Code → Code) (cs : Text) :
    pieces p (cs.map f) = (pieces (fun c => p (f c)) cs).map (·.map f) := by
  induction cs with
  | nil => rfl
  | cons c cs ih =>
      simp only [List.map_cons, pieces, ih]
      split
      · rfl
      · cases h : pieces (fun c => p (f c)) cs <;> rfl

/-- Where only separators are exchanged, the pieces stay as they are. -/
theorem pieces_map_of_eq {p q : Code → Bool} {f : Code → Code} (hp : ∀ c, p (f c) = q c)
    (hf : ∀ c, q c = false → f c = c) (cs : Text) : pieces p (cs.map f) = pieces q cs := by
  rw [pieces_map, show (fun c => p (f c)) = q from funext hp]
  refine (List.map_congr_left fun w hw => ?_).trans (List.map_id _)
  refine (List.map_congr_left fun c hc => ?_).trans (List.map_id _)
  exact hf c (not_of_mem_pieces hw hc)

/-! ### Lines -/

def nonempties (texts : List Text) : List Text :=
  texts.filter (!·.isEmpty)

theorem nonempties_eq (texts : List Text) :
    nonempties texts = nonempties (texts.headD [] :: nonempties texts.tail) := by
  cases texts with
  | nil => rfl
  | cons s rest => simp [nonempties, List.filter_cons]

theorem nonempties_congr {ss ts : List Text} (hhead : ss.headD [] = ts.headD [])
    (htail : nonempties ss.tail = nonempties ts.tail) : nonempties ss = nonempties ts := by
  rw [nonempties_eq, hhead, htail, ← nonempties_eq]

/-- The first line is the first piece, which can grow in front; behind it the pieces may be empty
where no line is. -/
theorem lines_and_pieces (cs : Text) :
    (lines cs).headD [] = (pieces isLineEnd cs).headD [] ∧
      nonempties (lines cs).tail = nonempties (pieces isLineEnd cs).tail := by
  fun_induction lines cs with
  | case1 => simp [pieces]
  | case2 cs ih =>
      have hreturn : isLineEnd (.char '\r') := by decide
      have hfeed : isLineEnd (.char '\n') := by decide
      simpa [pieces, hreturn, hfeed, nonempties] using nonempties_congr ih.1 ih.2
  | case3 c cs _ hc ih =>
      simpa [pieces, hc] using nonempties_congr ih.1 ih.2
  | case4 c cs _ hc hlines ih =>
      cases hpieces : pieces isLineEnd cs with
      | nil => exact absurd hpieces (pieces_ne_nil _ _)
      | cons p ps => simpa [pieces, hc, hlines, hpieces, eq_comm] using ih
  | case5 c cs _ hc l ls hlines ih =>
      cases hpieces : pieces isLineEnd cs with
      | nil => exact absurd hpieces (pieces_ne_nil _ _)
      | cons p ps => simpa [pieces, hc, hlines, hpieces] using ih

theorem nonempties_lines (cs : Text) :
    nonempties (lines cs) = nonempties (pieces isLineEnd cs) :=
  nonempties_congr (lines_and_pieces cs).1 (lines_and_pieces cs).2

/-! ### Blanks -/

theorem trim_cons_of_isBlank {c : Code} (hc : isBlank c) (cs : Text) :
    trim (c :: cs) = trim cs := by
  rw [trim, trimFront, List.dropWhile_cons_of_pos hc]
  rfl

theorem trimBack_append_of_isBlank {blanks : Text} (h : ∀ c ∈ blanks, isBlank c) (cs : Text) :
    trimBack (cs ++ blanks) = trimBack cs := by
  have hreverse : ∀ c ∈ blanks.reverse, isBlank c := fun c hc => h c (List.mem_reverse.mp hc)
  rw [trimBack, List.reverse_append, List.dropWhile_append_of_pos hreverse]
  rfl

theorem trim_append_of_isBlank {blanks : Text} (h : ∀ c ∈ blanks, isBlank c) (cs : Text) :
    trim (cs ++ blanks) = trim cs := by
  rw [trim, trimFront, List.dropWhile_append]
  split
  · rename_i hcs
    rw [List.isEmpty_iff] at hcs
    rw [List.dropWhile_eq_nil_iff.mpr h, trim, trimFront, hcs]
  · exact trimBack_append_of_isBlank h _

theorem length_trim_le (cs : Text) : (trim cs).length ≤ cs.length := by
  have hback : (trim cs).length ≤ (trimFront cs).length := by
    rw [trim, trimBack, List.length_reverse]
    calc _ ≤ (trimFront cs).reverse.length := (List.dropWhile_suffix isBlank).length_le
      _ = _ := List.length_reverse
  exact hback.trans (List.dropWhile_suffix isBlank).length_le

theorem dropWhile_isBlank_eq_self {cs : Text} (h : ∀ c, cs.head? = some c → isBlank c = false) :
    cs.dropWhile isBlank = cs := by
  cases cs with
  | nil => rfl
  | cons c cs => rw [List.dropWhile_cons_of_neg (by simpa using h c rfl)]

theorem trimBack_eq_self {cs : Text} (h : ∀ c, cs.getLast? = some c → isBlank c = false) :
    trimBack cs = cs := by
  rw [trimBack, dropWhile_isBlank_eq_self, List.reverse_reverse]
  intro c hc
  rw [List.head?_reverse] at hc
  exact h c hc

theorem words_append_cons {c : Code} (hc : isBlank c) (s t : Text) :
    words (s ++ c :: t) = words s ++ words t := by
  rw [words, pieces_append_cons hc, List.filter_append]
  rfl

theorem words_eq_singleton {w : Text} (hne : w ≠ []) (h : ∀ c ∈ w, isBlank c = false) :
    words w = [w] := by
  rw [words, pieces_of_forall_not h]
  simpa using hne

theorem words_append_of_isBlank {blanks : Text} (h : ∀ c ∈ blanks, isBlank c) (cs : Text) :
    words (blanks ++ cs) = words cs := by
  induction blanks with
  | nil => rfl
  | cons c blanks ih =>
      obtain ⟨hc, hrest⟩ := List.forall_mem_cons.mp h
      have hfirst := words_append_cons hc [] (blanks ++ cs)
      rw [List.nil_append] at hfirst
      rw [List.cons_append, hfirst, ih hrest]
      rfl

end BindingNames.Text
