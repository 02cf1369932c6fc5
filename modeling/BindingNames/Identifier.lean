import BindingNames.Text.Code

/-!
Identifiers of the C language: a letter or underscore, then letters, digits and underscores.
Rule patterns and new names have to be identifiers; there a single line feed at the very end is
let pass.
-/

namespace BindingNames.Identifier

def isLetter (c : Code) : Bool :=
  c.isAlpha || c == '_'

def isWordChar (c : Code) : Bool :=
  c.isAlphanum || c == '_'

def isIdentifier : Text → Bool
  | [] => false
  | c :: cs => isLetter c && cs.all isWordChar

def dropLineFeed (cs : Text) : Text :=
  if cs.getLast? = some (.char '\n') then cs.dropLast else cs

/-- The test that patterns, new names and the names of records have to pass: whether a text is an
identifier once a line feed at its end is set aside. -/
def accepts (cs : Text) : Bool :=
  isIdentifier (dropLineFeed cs)

theorem isWordChar_of_isLetter {c : Code} (h : isLetter c) : isWordChar c := by
  simp only [isLetter, isWordChar, Bool.or_eq_true, beq_iff_eq] at h ⊢
  exact h.imp_left Code.isAlphanum_of_isAlpha

theorem all_isWordChar_of_isIdentifier {cs : Text} (h : isIdentifier cs) :
    cs.all isWordChar := by
  cases cs with
  | nil => rfl
  | cons c cs =>
    simp only [isIdentifier, Bool.and_eq_true] at h
    simp [isWordChar_of_isLetter h.1, h.2]

/-- A text without a line feed at its end is accepted exactly when it is an identifier. -/
theorem accepts_eq {cs : Text} (h : cs.getLast? ≠ some (.char '\n')) :
    accepts cs = isIdentifier cs := by
  simp [accepts, dropLineFeed, h]

theorem accepts_append_lineFeed (cs : Text) :
    accepts (cs ++ [.char '\n']) = isIdentifier cs := by
  simp [accepts, dropLineFeed]

end BindingNames.Identifier
