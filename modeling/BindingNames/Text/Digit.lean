import BindingNames.Text.Code
import BindingNames.Text.Ranges

/-!
Characters with a digit value: the decimal digits of every script, and the superscript,
subscript and circled digits. Fractions and number letters are none. The decimal digits are those
that numbers are written with.
-/

namespace BindingNames.Text

def digitTable : List Nat :=
  [0xB2, 0xB3, 0xB9, 0xB9, 0x660, 0x669, 0x6F0, 0x6F9, 0x7C0, 0x7C9, 0x966, 0x96F, 0x9E6, 0x9EF,
  0xA66, 0xA6F, 0xAE6, 0xAEF, 0xB66, 0xB6F, 0xBE6, 0xBEF, 0xC66, 0xC6F, 0xCE6, 0xCEF, 0xD66,
  0xD6F, 0xDE6, 0xDEF, 0xE50, 0xE59, 0xED0, 0xED9, 0xF20, 0xF29, 0x1040, 0x1049, 0x1090, 0x1099,
  0x1369, 0x1371, 0x17E0, 0x17E9, 0x1810, 0x1819, 0x1946, 0x194F, 0x19D0, 0x19DA, 0x1A80, 0x1A89,
  0x1A90, 0x1A99, 0x1B50, 0x1B59, 0x1BB0, 0x1BB9, 0x1C40, 0x1C49, 0x1C50, 0x1C59, 0x2070, 0x2070,
  0x2074, 0x2079, 0x2080, 0x2089, 0x2460, 0x2468, 0x2474, 0x247C, 0x2488, 0x2490, 0x24EA, 0x24EA,
  0x24F5, 0x24FD, 0x24FF, 0x24FF, 0x2776, 0x277E, 0x2780, 0x2788, 0x278A, 0x2792, 0xA620, 0xA629,
  0xA8D0, 0xA8D9, 0xA900, 0xA909, 0xA9D0, 0xA9D9, 0xA9F0, 0xA9F9, 0xAA50, 0xAA59, 0xABF0, 0xABF9,
  0xFF10, 0xFF19, 0x104A0, 0x104A9, 0x10A40, 0x10A43, 0x10D30, 0x10D39, 0x10E60, 0x10E68,
  0x11052, 0x1105A, 0x11066, 0x1106F, 0x110F0, 0x110F9, 0x11136, 0x1113F, 0x111D0, 0x111D9,
  0x112F0, 0x112F9, 0x11450, 0x11459, 0x114D0, 0x114D9, 0x11650, 0x11659, 0x116C0, 0x116C9,
  0x11730, 0x11739, 0x118E0, 0x118E9, 0x11950, 0x11959, 0x11C50, 0x11C59, 0x11D50, 0x11D59,
  0x11DA0, 0x11DA9, 0x16A60, 0x16A69, 0x16AC0, 0x16AC9, 0x16B50, 0x16B59, 0x1D7CE, 0x1D7FF,
  0x1E140, 0x1E149, 0x1E2F0, 0x1E2F9, 0x1E950, 0x1E959, 0x1F100, 0x1F10A, 0x1FBF0, 0x1FBF9]

def isDigit (c : Code) : Bool :=
  c.isDigit || (128 ≤ c.toNat && inRanges digitTable c.toNat)

/-- Code points with a digit value that are no decimal digits. -/
def signTable : List Nat :=
  [0xB2, 0xB3, 0xB9, 0xB9, 0x1369, 0x1371, 0x19DA, 0x19DA, 0x2070, 0x2070, 0x2074, 0x2079,
  0x2080, 0x2089, 0x2460, 0x2468, 0x2474, 0x247C, 0x2488, 0x2490, 0x24EA, 0x24EA, 0x24F5,
  0x24FD, 0x24FF, 0x24FF, 0x2776, 0x277E, 0x2780, 0x2788, 0x278A, 0x2792, 0x10A40, 0x10A43,
  0x10E60, 0x10E68, 0x11052, 0x1105A, 0x1F100, 0x1F10A]

def isDecimal (c : Code) : Bool :=
  isDigit c && !inRanges signTable c.toNat

/-- How far a code point is from the beginning of its range in a table. -/
def offsetIn : List Nat → Nat → Nat
  | lo :: hi :: rest, n => if lo ≤ n && n ≤ hi then n - lo else offsetIn rest n
  | _, n => n

/-- The value of a decimal digit: ten of them follow each other in every script. -/
def decimalValue (c : Code) : Nat :=
  if c.isDigit then c.toNat - 48 else offsetIn digitTable c.toNat % 10

end BindingNames.Text
