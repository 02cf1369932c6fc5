import BindingNames.Text.Code
import BindingNames.Text.Printable

/-!
Text in quotes, as messages show it. A text is put between single quotes, or between double
quotes when it holds a single quote and no double one. The quote in use, the backslash and the
characters that are not printable are written as escapes, and every other character as itself.
Bytes are put in quotes like text of as many characters, with nothing beyond ASCII printable.
-/

namespace BindingNames.Text

def hexDigit (n : Nat) : Code :=
  Nat.digitChar (n % 16)

/-- The lowest `width` hexadecimal digits of a number, leading zeros included. -/
def hexDigits : Nat → Nat → Text
  | 0, _ => []
  | width + 1, n => hexDigits width (n / 16) ++ [hexDigit n]

/-- The escape of a character by its code point, in the shortest of three widths. -/
def codeEscape (c : Code) : Text :=
  let n := c.toNat
  if n < 0x100 then '\\' :: 'x' :: hexDigits 2 n
  else if n < 0x10000 then '\\' :: 'u' :: hexDigits 4 n
  else '\\' :: 'U' :: hexDigits 8 n

/-- One character between quotes `q`, which is written as itself if it is shown. -/
def quotedBy (isShown : Code → Bool) (q c : Code) : Text :=
  if c == q || c == '\\' then ['\\', c]
  else if c == '\n' then ['\\', 'n']
  else if c == '\r' then ['\\', 'r']
  else if c == '\t' then ['\\', 't']
  else if isShown c then [c]
  else codeEscape c

def quotedChar (q c : Code) : Text :=
  quotedBy isPrintable q c

def quoteFor (cs : Text) : Code :=
  if cs.contains '\'' && !cs.contains '"' then '"' else '\''

def quoted (cs : Text) : Text :=
  let q := quoteFor cs
  q :: cs.flatMap (quotedChar q) ++ [q]

def asciiEscaped (cs : Text) : Text :=
  cs.flatMap fun c => if c.toNat < 128 then [c] else codeEscape c

def isPlainPrintable (c : Code) : Bool :=
  c.toNat < 128 && isPrintable c

def quotedBytes (bytes : List UInt8) : Text :=
  let cs := bytes.map fun b => Code.ofNat b.toNat
  let q := quoteFor cs
  .char 'b' :: q :: cs.flatMap (quotedBy isPlainPrintable q) ++ [q]

end BindingNames.Text
