import BindingNames.Document.Moments
import BindingNames.Document.Tag
import BindingNames.Text.Blank

/-!
What text without quotes looks like in a document: an absent value, a truth value, a number, a
day or moment, a mark or just text. Marks that cannot stand without quotes count where a document
asks to look at quoted text. Whole numbers may be decimal, octal after a zero, hexadecimal,
binary or in places of sixty after colons, and underscores in them count for nothing. A broken
number needs a point.
-/

namespace BindingNames.Document

namespace Plain

def absentWords : List Text := ["", "~", "null", "Null", "NULL"]

def trueWords : List Text := ["yes", "Yes", "YES", "true", "True", "TRUE", "on", "On", "ON"]

def falseWords : List Text := ["no", "No", "NO", "false", "False", "FALSE", "off", "Off", "OFF"]

/-- Marks that stand for themselves, and their tag, which nothing can be made of. -/
def markWords : List Text := ["!", "&", "*"]
def markTag : Tag := .other (Tag.common ++ "yaml")

def isSign (c : Code) : Bool := c == '-' || c == '+'

def dropSign : Text → Text
  | c :: cs => if isSign c then cs else c :: cs
  | [] => []

def isNegative (cs : Text) : Bool := cs.head? == some (.char '-')

/-- Whether a text is not empty and all of it is of digits of a kind or underscores. -/
def isDigits (p : Code → Bool) (cs : Text) : Bool :=
  !cs.isEmpty && cs.all fun c => p c || c == '_'

def isOctal (c : Code) : Bool := '0' ≤ c && c ≤ '7'

def isBinary (c : Code) : Bool := c == '0' || c == '1'

def isHexadecimal (c : Code) : Bool :=
  c.isDigit || ('a' ≤ c && c ≤ 'f') || ('A' ≤ c && c ≤ 'F')

/-- Whether a text begins with a digit and goes on with digits and underscores. -/
def isNumeral : Text → Bool
  | c :: cs => c.isDigit && cs.all fun d => d.isDigit || d == '_'
  | [] => false

/-- Whether a text is a number below sixty in one or two digits. -/
def isSixtieth : Text → Bool
  | [c] => c.isDigit
  | [c, d] => '0' ≤ c && c ≤ '5' && d.isDigit
  | _ => false

def isColon (c : Code) : Bool := c == ':'

/-- Whether a text is numbers between colons, with a leading numeral. -/
def isSixties (cs : Text) : Bool :=
  match Text.pieces isColon cs with
  | first :: second :: rest => isNumeral first && (second :: rest).all isSixtieth
  | _ => false

def isWhole (cs : Text) : Bool :=
  match dropSign cs with
  | [.char '0'] => true
  | .char '0' :: .char 'b' :: ds => isDigits isBinary ds
  | .char '0' :: .char 'x' :: ds => isDigits isHexadecimal ds
  | .char '0' :: ds => isDigits isOctal ds
  | ds => isNumeral ds || isSixties ds

/-- Whether a text is empty or an exponent, which needs a sign. -/
def isExponent : Text → Bool
  | [] => true
  | e :: s :: ds => (e == 'e' || e == 'E') && isSign s && !ds.isEmpty && ds.all Code.isDigit
  | _ => false

def isPoint (c : Code) : Bool := c == '.'

/-- Whether a text is the part of a number behind the point, with its exponent. -/
def isFraction (cs : Text) : Bool :=
  isExponent (cs.dropWhile fun c => c.isDigit || c == '_')

def isUnending (cs : Text) : Bool :=
  cs == ".inf" || cs == ".Inf" || cs == ".INF"

def isUndefined (cs : Text) : Bool :=
  cs == ".nan" || cs == ".NaN" || cs == ".NAN"

def isBroken (cs : Text) : Bool :=
  let ds := dropSign cs
  let front := ds.takeWhile (!isPoint ·)
  match ds.dropWhile (!isPoint ·) with
  | [] => false
  | _ :: back =>
    (isNumeral front && isFraction back) ||
      (isSixties front && back.all fun c => c.isDigit || c == '_') ||
      (ds == cs && front.isEmpty && (back.head?.any Code.isDigit) && isFraction back) ||
      isUnending ds || isUndefined cs

def kind (s : Text) : Tag :=
  if trueWords.contains s || falseWords.contains s then .truth
  else if isBroken s then .broken
  else if isWhole s then .whole
  else if s == "<<" then .merge
  else if absentWords.contains s then .absent
  else if MomentText.looksLike s then .moment
  else if s == "=" then .default
  else if markWords.contains s then markTag
  else .text

/-- The tag of a text that may end with a line feed, which does not count. -/
def kindOfLine (s : Text) : Tag :=
  if 1 < s.length && s.getLast? == some (.char '\n') then kind s.dropLast else kind s

/-- Whether a text can stand without quotes and still be read as text. -/
def isText (s : Text) : Bool :=
  kind s == .text

end Plain

end BindingNames.Document
