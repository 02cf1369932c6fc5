import BindingNames.Binary64
import BindingNames.Text.Blank
import BindingNames.Text.Digit

/-!
Numbers in text. A number may have blanks around it and a sign in front, and its decimal digits may
be those of any script. A whole number has a base, whose mark may precede the digits; a broken one
may have a point and an exponent, or be one of the words for the numbers that are not finite.
-/

namespace BindingNames.Text.Numeral

/-- Blanks around a number, apart from those beyond ASCII. -/
def isSpace (c : Code) : Bool :=
  [9, 10, 11, 12, 13, 32].contains c.toNat

/-- A character with the digits and blanks beyond ASCII as those of ASCII. -/
def asciiForm (c : Code) : Code :=
  if c.toNat < 128 then c
  else if isBlank c then ' '
  else if isDecimal c then Nat.digitChar (decimalValue c)
  else c

def stripped (cs : Text) : Text :=
  let cs := (cs.map asciiForm).dropWhile isSpace
  (cs.reverse.dropWhile isSpace).reverse

def splitSign : Text → Bool × Text
  | .char '-' :: cs => (true, cs)
  | .char '+' :: cs => (false, cs)
  | cs => (false, cs)

def digitValue? (base : Nat) (c : Code) : Option Nat :=
  let n :=
    if c.isDigit then c.toNat - 48
    else if c.isAlpha && c.toNat < 128 then c.toLower.toNat - 87
    else base
  if n < base then some n else none

def natOf? (base : Nat) (cs : Text) : Option Nat :=
  if cs.isEmpty then none
  else cs.foldlM (fun n c => (digitValue? base c).map (base * n + ·)) 0

/-- The digits behind the mark of a base, which may be missing. -/
def dropMark (base : Nat) : Text → Text
  | .char '0' :: m :: cs =>
    let marked := (base = 2 ∧ m.toLower = .char 'b') ∨ (base = 8 ∧ m.toLower = .char 'o') ∨
      base = 16 ∧ m.toLower = .char 'x'
    if marked then cs else '0' :: m :: cs
  | cs => cs

def intOf? (base : Nat) (cs : Text) : Option Int :=
  let (negative, ds) := splitSign (stripped cs)
  (natOf? base (dropMark base ds)).map fun n => if negative then -n else n

def digitCount (cs : Text) : Nat :=
  ((splitSign (stripped cs)).2.takeWhile Code.isDigit).length

/-- The exponent at the end of a number: none, or a mark and a whole number. -/
def exponentOf? : Text → Option Int
  | [] => some 0
  | e :: cs =>
    if e == 'e' || e == 'E' then
      let (negative, ds) := splitSign cs
      (natOf? 10 ds).map fun n => if negative then -n else n
    else none

/-- The number with some digits, a point among them and perhaps an exponent. -/
def decimalOf? (negative : Bool) (cs : Text) : Option Binary64 :=
  let front := cs.takeWhile Code.isDigit
  let rest := cs.drop front.length
  let (back, rest) :=
    match rest with
    | .char '.' :: cs => (cs.takeWhile Code.isDigit, cs.dropWhile Code.isDigit)
    | cs => ([], cs)
  if front.isEmpty && back.isEmpty then none
  else do
    let digits ← natOf? 10 (front ++ back)
    let exponent ← exponentOf? rest
    return .ofDecimal negative digits (exponent - back.length)

def floatOf? (cs : Text) : Option Binary64 :=
  let (negative, cs) := splitSign (stripped cs)
  let word := cs.map Code.toLower
  if word == "inf" || word == "infinity" then some (.infinite negative)
  else if word == "nan" then some .nan
  else decimalOf? negative cs

/-- How many decimal digits a whole number may have where it is read from text or shown. -/
def mostDigits : Nat := 4300

def isShown (i : Int) : Bool :=
  i.natAbs < Nat.pow 10 mostDigits

def tooLongNumber : Text :=
  "Exceeds the limit (" ++ ofNat mostDigits ++
    " digits) for integer string conversion; use sys.set_int_max_str_digits() to increase the limit"

def tooLongText (count : Nat) : Text :=
  "Exceeds the limit (" ++ ofNat mostDigits ++
    " digits) for integer string conversion: value has " ++ ofNat count ++
    " digits; use sys.set_int_max_str_digits() to increase the limit"

end BindingNames.Text.Numeral
