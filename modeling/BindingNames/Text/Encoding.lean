import BindingNames.Text.Quoted

/-!
Codes in which text is written. A code lacks some characters: the first 128 are all that the
smallest one has, and the usual one lacks only halves. In the names of files some halves stand for
single bytes. The message about a text that cannot be
written tells where the first of the characters that are lacking stand.
-/

namespace BindingNames.Text

inductive Encoding where
  | ascii
  | utf8
  | fileName
  deriving DecidableEq, Repr

namespace Encoding

def name : Encoding → Text
  | .ascii => "ascii"
  | .utf8 | .fileName => "utf-8"

/-- Whether a code stands for a single byte in the name of a file. -/
def isByte (c : Code) : Bool :=
  0xDC80 ≤ c.toNat && c.toNat ≤ 0xDCFF

def lacks : Encoding → Code → Bool
  | .ascii, c => 128 ≤ c.toNat
  | .utf8, c => c.isHalf
  | .fileName, c => c.isHalf && !isByte c

def reason : Encoding → Text
  | .ascii => "ordinal not in range(128)"
  | .utf8 | .fileName => "surrogates not allowed"

/-- How many bytes the name of a file takes. -/
def nameSize (s : Text) : Nat :=
  utf8Size (s.filter (!isByte ·)) + s.countP isByte

def covers (e : Encoding) (s : Text) : Bool :=
  s.all (!e.lacks ·)

def complaint (e : Encoding) (s : Text) : Text :=
  let first := (s.takeWhile (!e.lacks ·)).length
  let lacking := (s.drop first).takeWhile e.lacks
  let what :=
    match lacking with
    | [c] => "character '" ++ codeEscape c ++ "' in position " ++ Text.ofNat first
    | cs =>
      "characters in position " ++ Text.ofNat first ++ "-" ++ Text.ofNat (first + cs.length - 1)
  "'" ++ e.name ++ "' codec can't encode " ++ what ++ ": " ++ e.reason

end Encoding

end BindingNames.Text
