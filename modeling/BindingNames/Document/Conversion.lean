import BindingNames.Document.Plain
import BindingNames.Failure
import BindingNames.Text.Base64
import BindingNames.Text.Case
import BindingNames.Text.Encoding
import BindingNames.Text.Numeral

/-!
What the text of a scalar stands for, given its tag. A document may state any tag for any text, so
each reading may fail in its own way. Underscores in numbers count for nothing, and parts between
colons are places of sixty.
-/

namespace BindingNames.Document

/-- A fault in the text of a scalar, which no longer has a place in the document. -/
def textFault (stage : DocumentStage) (heading : Text) : DocumentFault :=
  ⟨stage, heading, 0⟩

def unknownTag (tag : Tag) : DocumentFault :=
  textFault .constructing
    ("could not determine a constructor for the tag " ++ Text.quoted tag.name)

namespace Conversion

/-- The truth value of a word, whose case does not matter. -/
def truth (s : Text) : Except DocumentFault Bool :=
  let word := Text.lower s
  if word == "yes" || word == "true" || word == "on" then return true
  else if word == "no" || word == "false" || word == "off" then return false
  else throw (textFault .unknownWord (Text.quoted word))

def withoutUnderscores (cs : Text) : Text :=
  cs.filter (· != Code.char '_')

def noDigits : DocumentFault :=
  textFault .noDigits "string index out of range"

def badNumberText (base : Nat) (cs : Text) : Text :=
  "invalid literal for int() with base " ++ Text.ofNat base ++ ": " ++
    Text.quoted cs

def inBase (base : Nat) (cs : Text) : Except DocumentFault Int :=
  let count := Text.Numeral.digitCount cs
  if base = 10 ∧ Text.Numeral.mostDigits < count then
    throw (textFault .converting (Text.Numeral.tooLongText count))
  else
    match Text.Numeral.intOf? base cs with
    | some i => return i
    | none => throw (textFault .converting (badNumberText base cs))

/-- The whole number of places of sixty. -/
def inSixties (parts : List Text) : Except DocumentFault Int := do
  return (← parts.mapM (inBase 10)).foldl (fun n i => 60 * n + i) 0

/-- The size of a whole number, by the mark in front of its digits. -/
def wholeSize (cs : Text) : Except DocumentFault Int :=
  match cs with
  | [] => throw noDigits
  | [.char '0'] => return 0
  | .char '0' :: .char 'b' :: ds => inBase 2 ds
  | .char '0' :: .char 'x' :: ds => inBase 16 ds
  | .char '0' :: _ => inBase 8 cs
  | ds => if ds.contains ':' then inSixties (Text.pieces Plain.isColon ds) else inBase 10 ds

def whole (s : Text) : Except DocumentFault Int :=
  match withoutUnderscores s with
  | [] => throw noDigits
  | cs => do
    let n ← wholeSize (Plain.dropSign cs)
    return if Plain.isNegative cs then -n else n

def decimal (cs : Text) : Except DocumentFault Binary64 :=
  match Text.Numeral.floatOf? cs with
  | some x => return x
  | none =>
    throw (textFault .converting
      ("could not convert string to float: " ++ Text.quoted cs))

/-- The sum of some places of sixty, the last one first, added to what is there. Every step is
rounded, and the unit of a place must not be too large for a number. -/
def sumSixties (sum : Binary64) (unit : Nat) : List Binary64 → Except DocumentFault Binary64
  | [] => return sum
  | x :: xs =>
    match Binary64.ofNat unit with
    | .finite b s u => sumSixties (sum.plus (x.times (.finite b s u))) (unit * 60) xs
    | _ => throw (textFault .tooLarge "int too large to convert to float")

def brokenSize (cs : Text) : Except DocumentFault Binary64 :=
  if cs == ".inf" then return .infinite false
  else if cs == ".nan" then return .nan
  else if cs.contains ':' then do
    let parts ← (Text.pieces Plain.isColon cs).mapM decimal
    sumSixties .zero 1 parts.reverse
  else decimal cs

def broken (s : Text) : Except DocumentFault Binary64 :=
  match (Text.lower (withoutUnderscores s)) with
  | [] => throw noDigits
  | cs => do
    let x ← brokenSize (Plain.dropSign cs)
    return if Plain.isNegative cs then x.negated else x

def bytes (s : Text) : Except DocumentFault (List UInt8) :=
  if !Text.Encoding.ascii.covers s then
    throw (textFault .constructing
      ("failed to convert base64 data into ascii: " ++ Text.Encoding.ascii.complaint s))
  else
    match Text.Base64.decode s with
    | .ok b => return b
    | .error e =>
      throw (textFault .constructing ("failed to decode base64 data: " ++ e.message))

def dropLineFeed (cs : Text) : Text :=
  if cs.getLast? == some (.char '\n') then cs.dropLast else cs

def moment (s : Text) : Except DocumentFault Scalar :=
  let converted (x : Except CalendarFault Scalar) : Except DocumentFault Scalar :=
    x.mapError fun e => textFault .converting e.message
  match MomentText.ofChars? (dropLineFeed s) with
  | none =>
    throw (textFault .noMoment "'NoneType' object has no attribute 'groupdict'")
  | some x =>
    match x.time with
    | none => converted (x.toDay.map (.day · none))
    | some t => converted ((x.toMoment t).map (.moment · none))

end Conversion

/-- The scalar that a text with a tag stands for. -/
def scalarOf (tag : Tag) (s : Text) : Except DocumentFault Scalar :=
  match tag with
  | .text => return .text s
  | .absent => return .null
  | .truth => return .bool (← Conversion.truth s)
  | .whole => return .int (← Conversion.whole s)
  | .broken => return .float (← Conversion.broken s)
  | .bytes => return .bytes (← Conversion.bytes s)
  | .moment => Conversion.moment s
  | tag => throw (unknownTag tag)

def hasScalars (t : Tag) : Bool :=
  [Tag.text, .absent, .truth, .whole, .broken, .moment, .bytes].contains t

end BindingNames.Document
