import BindingNames.Log
import BindingNames.Text.Word

/-!
Formats of log entries. A format is text with fields in percent signs, each of which says how an
argument is shown: as text or as a number, in which width, and with how many places. A field may
name the attribute of the entry that is its argument; one without a name takes the argument that
is left over, which is the whole entry at first, and each argument can be taken once only. Two
percent signs side by side are one. An entry that cannot be shown in a format is not shown at all.
-/

namespace BindingNames

/-- A width or a number of places: none, a number, or the next argument. -/
inductive FieldSize where
  | unset
  | given (n : Nat)
  | argument
  deriving DecidableEq, Repr, Inhabited

structure FormatField where
  name : Option Text
  flags : Text
  width : FieldSize
  precision : FieldSize
  conversion : Code
  deriving DecidableEq, Repr, Inhabited

/-- A part of a format; nothing can be shown in a broken one. -/
inductive FormatPart where
  | literal (c : Code)
  | field (f : FormatField)
  | broken
  deriving DecidableEq, Repr, Inhabited

namespace FormatPart

def isFlag (c : Code) : Bool :=
  c == '#' || c == '0' || c == '+' || c == ' ' || c == '-'

/-- Marks of length, which a field may have and which mean nothing. -/
def isLengthMark (c : Code) : Bool :=
  c == 'h' || c == 'l' || c == 'L'

/-- The largest numbers that a format can have as a width and as a number of places. -/
def largestWidth : Nat := Nat.pow 2 63 - 1
def largestPrecision : Nat := Nat.pow 2 31 - 1

def digitsValue (cs : Text) : Nat :=
  cs.foldl (fun n c => 10 * n + (c.toNat - 48)) 0

/-- The name up to the parenthesis that closes it, inside some others, and what follows. -/
def nameFrom (inside : Nat) : Text → Option (Text × Text)
  | [] => none
  | c :: cs =>
    if c == ')' && inside == 0 then some ([], cs)
    else
      let inside := if c == '(' then inside + 1 else if c == ')' then inside - 1 else inside
      (nameFrom inside cs).map fun (name, rest) => (c :: name, rest)

def optionalName (cs : Text) : Option (Option Text × Text) :=
  match cs with
  | .char '(' :: rest => (nameFrom 0 rest).map fun (name, rest) => (some name, rest)
  | _ => some (none, cs)

def sizeFrom (limit : Nat) (cs : Text) : Option (FieldSize × Text) :=
  match cs with
  | .char '*' :: rest => some (.argument, rest)
  | _ =>
    let digits := cs.takeWhile Code.isDigit
    if digits.isEmpty then some (.unset, cs)
    else if limit < digitsValue digits then none
    else some (.given (digitsValue digits), cs.drop digits.length)

/-- The number of places that a text begins with; behind a point without one there are none. -/
def precisionFrom (cs : Text) : Option (FieldSize × Text) :=
  match cs with
  | .char '.' :: rest => do
    let (size, rest) ← sizeFrom largestPrecision rest
    return (if size = .unset then .given 0 else size, rest)
  | _ => some (.unset, cs)

def fieldFrom (cs : Text) : Option (FormatField × Text) := do
  let (name, rest) ← optionalName cs
  let flags := rest.takeWhile isFlag
  let (width, rest) ← sizeFrom largestWidth (rest.drop flags.length)
  let (precision, rest) ← precisionFrom rest
  let rest := if rest.head?.any isLengthMark then rest.drop 1 else rest
  let conversion ← rest.head?
  return (⟨name, flags, width, precision, conversion⟩, rest.drop 1)

def parse : Nat → Text → List FormatPart
  | 0, _ => []
  | _ + 1, [] => []
  | fuel + 1, c :: cs =>
    if c != '%' then .literal c :: parse fuel cs
    else if cs.head? = some (.char '%') then .literal c :: parse fuel (cs.drop 1)
    else
      match fieldFrom cs with
      | some (f, rest) => .field f :: parse fuel rest
      | none => [.broken]

end FormatPart

structure FieldLayout where
  flags : Text
  width : Nat
  precision : Option Nat
  deriving DecidableEq, Repr, Inhabited

namespace FieldLayout

def padded (x : FieldLayout) (isNumber : Bool) (sign cs : Text) : Text :=
  let fill := x.width - (sign.length + cs.length)
  if x.flags.contains '-' then sign ++ cs ++ Text.repeated fill ' '
  else if x.flags.contains '0' && isNumber then sign ++ Text.repeated fill '0' ++ cs
  else Text.repeated fill ' ' ++ sign ++ cs

def clipped (x : FieldLayout) (cs : Text) : Text :=
  match x.precision with
  | some n => cs.take n
  | none => cs

def signOf (x : FieldLayout) (n : Int) : Text :=
  if n < 0 then "-"
  else if x.flags.contains '+' then "+"
  else if x.flags.contains ' ' then " "
  else ""

/-- A number in the digits of a base behind the mark of the base. -/
def showWhole (x : FieldLayout) (mark : Text) (digits : Nat → Text) (n : Int) : Text :=
  let digits := digits n.natAbs
  let least := Text.repeated (x.precision.getD 0 - digits.length) '0'
  let mark := if x.flags.contains '#' then mark else []
  x.padded true (x.signOf n ++ mark) (least ++ digits)

def digitsIn (base n : Nat) : Text :=
  (Nat.toDigits base n).map .char

def withPoint (cs : Text) : Text :=
  if cs.contains '.' then cs
  else
    let front := cs.takeWhile Code.isDigit
    front ++ "." ++ cs.drop front.length

/-- The digits of a broken number in a field, in one of three forms. -/
def brokenDigits (x : FieldLayout) (form : Code) (n : Binary64) : Text :=
  let places := x.precision.getD 6
  let full := x.flags.contains '#'
  let digits :=
    if form == 'e' then n.scientificText places
    else if form == 'f' then n.fixedText places
    else n.generalText (max places 1) full
  if full then withPoint digits else digits

def showBroken (x : FieldLayout) (conversion : Code) (n : Int) : Option Text :=
  match Binary64.ofInt n with
  | .finite b s u =>
    let digits := x.brokenDigits conversion.toLower (.finite b s u)
    let digits := if conversion.isUpper then digits.map Code.toUpper else digits
    some (x.padded true (x.signOf n) digits)
  | _ => none

/-- The code that a value is, or is the code point of. -/
def codeOf? : Value → Option Code
  | .scalar (.text [c]) => some c
  | .scalar (.int i) => if 0 ≤ i && i < 0x110000 then some (Code.ofNat i.toNat) else none
  | _ => none

def wholeOf? : Value → Option Int
  | .scalar (.int i) => some i
  | _ => none

def show? (x : FieldLayout) (conversion : Code) (v : Value) : Option Text :=
  let text (cs : Text) : Option Text := some (x.padded false [] (x.clipped cs))
  let whole (mark : Text) (digits : Nat → Text) : Option Text :=
    (wholeOf? v).map (x.showWhole mark digits)
  if conversion == 's' then text v.plain
  else if conversion == 'r' then text v.shown
  else if conversion == 'a' then text (Text.asciiEscaped v.shown)
  else if conversion == 'c' then (codeOf? v).map fun c => x.padded false [] [c]
  else if conversion == 'd' || conversion == 'i' || conversion == 'u' then whole [] Text.ofNat
  else if conversion == 'o' then whole "0o" (digitsIn 8)
  else if conversion == 'x' then whole "0x" (digitsIn 16)
  else if conversion == 'X' then whole "0X" fun n => (digitsIn 16 n).map Code.toUpper
  else if Text.contains "efgEFG" conversion then
    (wholeOf? v).bind (x.showBroken conversion)
  else none

end FieldLayout

namespace FormatPart

/-- Steps of showing an entry. The state is the argument that is left over, and a step that needs
one fails if there is none. -/
abbrev Showing := StateT (Option Value) Option

def nextArgument : Showing Value := do
  match ← get with
  | some v =>
    set (none : Option Value)
    return v
  | none => failure

def sizeOf (limit : Nat) : FieldSize → Showing (Option Int)
  | .unset => return none
  | .given n => return some n
  | .argument => do
    match FieldLayout.wholeOf? (← nextArgument) with
    | some i => if i.natAbs ≤ limit then return some i else failure
    | none => failure

def room : Nat := Nat.pow 2 31

def showField (record : Fields) (f : FormatField) : Showing Text := do
  if let some name := f.name then
    match Value.get? (.text name) record with
    | some v => set (some v)
    | none => failure
  let width := (← sizeOf largestWidth f.width).getD 0
  let precision ← sizeOf largestPrecision f.precision
  let flags := if width < 0 then .char '-' :: f.flags else f.flags
  match FieldLayout.show? ⟨flags, width.natAbs, precision.map Int.toNat⟩ f.conversion
      (← nextArgument) with
  | some cs => if room < width.natAbs then failure else return cs
  | none => failure

def showPart (record : Fields) : FormatPart → Showing Text
  | .literal c => return [c]
  | .field f => showField record f
  | .broken => failure

/-- The attributes of an entry. Where it comes from and when it was written is not known, apart
from the time on the stamp, and reads as empty text or zero. -/
def attributes (stamp : Text) (e : Entry) : Fields :=
  let name : Text := if e.logger.isEmpty then "root" else e.logger
  let unknownText : List Text := ["pathname", "filename", "module"]
  let absent : List Text := ["exc_info", "exc_text", "stack_info"]
  [(.text "name", .text name), (.text "msg", .text e.message), (.text "args", .tuple []),
   (.text "levelname", .text (Level.name e.level)), (.text "levelno", .int e.level)] ++
    unknownText.map (fun s => (.text s, .text [])) ++ absent.map (fun s => (.text s, .null)) ++
  [(.text "lineno", .int 0), (.text "funcName", .text []), (.text "created", .int 0),
   (.text "msecs", .int 0), (.text "relativeCreated", .int 0), (.text "thread", .int 0),
   (.text "threadName", .text "MainThread"), (.text "processName", .text "MainProcess"),
   (.text "process", .int 0), (.text "message", .text e.message), (.text "asctime", .text stamp)]

def render? (format : List FormatPart) (stamp : Text) (e : Entry) : Option Text :=
  let record := attributes stamp e
  ((format.mapM (showPart record)).run' (some (.map record))).map List.flatten

end FormatPart

end BindingNames
