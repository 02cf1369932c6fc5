import BindingNames.Document.Plain
import BindingNames.Document.Spot
import BindingNames.Failure
import BindingNames.Text.Base64
import BindingNames.Text.Piece
import BindingNames.Value

/-!
The text of a value as a document of blocks. Each level of a mapping is two columns further in,
and a list behind a key stays at the column of the key. Text that would read as something else
is put in single quotes, and text with unusual characters in double quotes. A key that is empty,
long or has line ends is written behind a question mark. Text is folded at spaces beyond a column,
except in a key on the line of its value. A value that comes again is written once and gets a name.
-/

namespace BindingNames.Document

namespace Writing

def spaces (n : Nat) : Text :=
  Text.repeated n ' '

def lineAt (indent : Nat) : Text :=
  "\n" ++ spaces indent

/-- Characters that text in single quotes and plain text may hold. -/
def isOrdinary (c : Code) : Bool :=
  let n := c.toNat
  n == 10 || (0x20 ≤ n && n ≤ 0x7E) || n == 0x85 || (0xA0 ≤ n && n ≤ 0xD7FF) ||
    (0xE000 ≤ n && n ≤ 0xFFFD && n != 0xFEFF) || (0x10000 ≤ n && n < 0x10FFFF)

/-- Whether a gap or a line end, or a carriage return, is here. -/
def isWide (c : Code) : Bool :=
  isGap c || c == '\r'

/-- Whether some two neighbours in a text are as said. -/
def hasNeighbours (p : Code → Code → Bool) : Text → Bool
  | c :: d :: cs => p c d || hasNeighbours p (d :: cs)
  | _ => false

def spaceThenBreak (c d : Code) : Bool := c == ' ' && isBreak d

def breakThenSpace (c d : Code) : Bool := isBreak c && d == ' '

/-- Whether a colon before a gap, or a number sign behind one, would end plain text. -/
def endsPlain (c d : Code) : Bool :=
  (c == ':' && isWide d) || (isWide c && d == '#')

def firstMarks : Text :=
  "#,[]\x7b\x7d&*!|>'\"%@\x60"

/-- Whether the beginning of a text would be taken for a mark. -/
def beginsWithMark : Text → Bool
  | [] => false
  | c :: cs =>
    firstMarks.contains c || (Text.contains "?:-" c && (cs.head?.all isWide)) ||
      Text.beginsWith (c :: cs) "---" || Text.beginsWith (c :: cs) "..."

def isEdge (c : Code) : Bool :=
  c == ' ' || isBreak c

def fitsPlain (s : Text) : Bool :=
  Plain.isText s && s.all isOrdinary && !s.any isBreak && !beginsWithMark s &&
    !(s.head?.any isEdge) && !(s.getLast?.any isEdge) && !(s.getLast? == some (.char ':')) &&
    !hasNeighbours endsPlain s

def fitsSingle (s : Text) : Bool :=
  s.all isOrdinary && !hasNeighbours spaceThenBreak s && !hasNeighbours breakThenSpace s

/-- The column beyond which a space may end a line. -/
def widest : Nat := 80

def nextLine (indent : Nat) : Text :=
  lineAt indent

/-- Whether a space between two characters may end the line. -/
def mayEndLine (before after : Option Code) (column : Nat) : Bool :=
  widest < column && before.any (· != Code.char ' ') && after.any (· != Code.char ' ')

/-- Plain text from a column on. A single space beyond the widest column ends the line. -/
def plainChars (folds : Bool) (indent column : Nat) (before : Option Code) :
    Text → Text
  | [] => []
  | c :: cs =>
    if c == ' ' && folds && mayEndLine before cs.head? column then
      nextLine indent ++ plainChars folds indent indent (some c) cs
    else c :: plainChars folds indent (column + 1) (some c) cs

/-- Text in single quotes from a column on. Of line ends in a row the first line feed is doubled,
and a single space beyond the widest column ends the line. -/
def singleChars (folds : Bool) (indent column : Nat) (before : Option Code) :
    Text → Text
  | [] => if before.any isBreak then spaces indent else []
  | c :: cs =>
    let inBreaks := before.any isBreak
    if isBreak c then
      (if c == '\n' && !inBreaks then [c] else []) ++
        c :: singleChars folds indent 0 (some c) cs
    else if c == ' ' && folds && mayEndLine before cs.head? column then
      nextLine indent ++ singleChars folds indent indent (some c) cs
    else
      let column := if inBreaks then indent else column
      let written : Text := if c == '\'' then [c, c] else [c]
      (if inBreaks then spaces indent else []) ++ written ++
        singleChars folds indent (column + written.length) (some c) cs

def singleQuoted (folds : Bool) (indent column : Nat) (s : Text) : Text :=
  "'" ++ singleChars folds indent (column + 1) none s ++ "'"

def escapes : List (Nat × Code) :=
  [(0, '0'), (7, 'a'), (8, 'b'), (9, 't'), (10, 'n'), (11, 'v'), (12, 'f'), (13, 'r'), (27, 'e'),
   (34, '"'), (92, '\\'), (0x85, 'N'), (0xA0, '_'), (0x2028, 'L'), (0x2029, 'P')]

def upperHex (width n : Nat) : Text :=
  (Text.hexDigits width n).map Code.toUpper

/-- Characters that stand for themselves in double quotes. -/
def isBare (c : Code) : Bool :=
  let n := c.toNat
  c != '"' && c != '\\' &&
    ((0x20 ≤ n && n ≤ 0x7E) || (0xA0 ≤ n && n ≤ 0xD7FF && n != 0x2028 && n != 0x2029) ||
      (0xE000 ≤ n && n ≤ 0xFFFD && n != 0xFEFF))

def escaped (c : Code) : Text :=
  let n := c.toNat
  match escapes.lookup n with
  | some e => ['\\', e]
  | none =>
    if n ≤ 0xFF then '\\' :: 'x' :: upperHex 2 n
    else if n ≤ 0xFFFF then '\\' :: 'u' :: upperHex 4 n
    else '\\' :: 'U' :: upperHex 8 n

/-- What ends a line in double quotes. A space that begins the next line is escaped. -/
def doubleBreak (indent : Nat) (next : Option Code) : Text :=
  "\\" ++ nextLine indent ++ (if next == some (.char ' ') then "\\" else [] : Text)

def columnAfter (indent : Nat) (next : Option Code) : Nat :=
  if next == some (.char ' ') then indent + 1 else indent

/-- Text in double quotes. `held` are characters that stand for themselves and are not written
yet, the last one first, and `column` is the column before them. Beyond the widest column a line
ends before a space and next to an escape, but neither at the beginning nor at the end. -/
def doubleChars (folds : Bool) (indent column : Nat) (held : Text) (atStart : Bool) :
    Text → Text
  | [] => held.reverse
  | c :: cs =>
    let here := column + held.length
    let inside := folds && !atStart && !cs.isEmpty
    if isBare c then
      if inside && (c == ' ' || held.isEmpty) && widest < here then
        held.reverse ++ doubleBreak indent (some c) ++
          doubleChars folds indent (columnAfter indent (some c)) [c] false cs
      else doubleChars folds indent column (c :: held) false cs
    else
      let column := here + (escaped c).length
      let written := held.reverse ++ escaped c
      if inside && widest + 1 < column then
        written ++ doubleBreak indent cs.head? ++
          doubleChars folds indent (columnAfter indent cs.head?) [] false cs
      else written ++ doubleChars folds indent column [] false cs

def doubleQuoted (folds : Bool) (indent column : Nat) (s : Text) : Text :=
  "\"" ++ doubleChars folds indent (column + 1) [] true s ++ "\""

def textForm (folds : Bool) (indent column : Nat) (s : Text) : Text :=
  if fitsPlain s then plainChars folds indent column none s
  else if fitsSingle s then singleQuoted folds indent column s
  else doubleQuoted folds indent column s

def lines76 : Nat → Text → List Text
  | 0, _ => []
  | fuel + 1, cs => if cs.isEmpty then [] else cs.take 76 :: lines76 fuel (cs.drop 76)

/-- Bytes as lines of a block, or as empty text in double quotes. -/
def bytesForm (indent : Nat) (b : List UInt8) : Text :=
  if b.isEmpty then "\"\""
  else
    let cs := Text.Base64.encode b
    "|" ++ List.flatten ((lines76 cs.length cs).map fun l => lineAt indent ++ l)

/-- A broken number, in which a point precedes every exponent. -/
def numberForm : Binary64 → Text
  | .nan => ".nan"
  | .infinite b => if b then "-.inf" else ".inf"
  | x =>
    let cs := x.toText
    if cs.contains '.' then cs
    else cs.flatMap fun c : Code => if c == 'e' then ".0e" else [c]

def scalarForm (folds : Bool) (indent column : Nat) : Scalar → Text
  | .null => "null"
  | .bool b => if b then "true" else "false"
  | .int i => Text.ofInt i
  | .float x => numberForm x
  | .text s => textForm folds indent column s
  | .bytes b => bytesForm indent b
  | .day d _ => d.toText
  | .moment m _ => plainChars folds indent column none m.toText
  | .pair _ _ _ => []

def tupleTag : Text := "!!python/tuple"
def setTag : Text := "!!set"

/-- The tag of a scalar, where it has to be written. -/
def scalarTag : Scalar → List Text
  | .bytes _ => ["!!binary"]
  | _ => []

def kindLength : Scalar → Nat
  | .null => 6
  | .bool _ => 6
  | .int _ => 5
  | .float _ => 7
  | .text _ => 5
  | .bytes _ => 8
  | .day _ _ => 11
  | .moment _ _ => 11
  | .pair _ _ _ => 0

/-- Whether a key may stand in front of a colon on one line. -/
def isShortKey (k : Scalar) : Bool :=
  match k with
  | .text s =>
    !s.isEmpty && !s.any isBreak && kindLength k + s.length < 128
  | .bytes _ => false
  | .pair _ _ _ => false
  | k => kindLength k + (scalarForm false 0 0 k).length < 128

/-! Labels: a value that comes again is written once, with a name that stands for it later. -/

/-- The labels met so far, those met more than once in the order in which that shows, and what
cannot be written. -/
structure Labels where
  met : List Nat
  repeated : List Nat
  fault : Option DocumentFault
  deriving Repr, Inhabited

def deepest : Nat := 328

namespace Labels

def hasMet (x : Labels) (label : Nat) : Bool :=
  x.met.contains label

def meet (x : Labels) (label : Nat) : Labels :=
  { x with met := label :: x.met }

def meetAgain (x : Labels) (label : Nat) : Labels :=
  if x.repeated.contains label then x else { x with repeated := x.repeated ++ [label] }

/-- Notes a fault, of which only the first one counts. -/
def noteIf (x : Labels) (bad : Bool) (stage : DocumentStage) (heading : Text) : Labels :=
  if bad && x.fault.isNone then { x with fault := some ⟨stage, heading, 0⟩ } else x

def noteDepth (x : Labels) (depth : Nat) : Labels :=
  x.noteIf (deepest < depth) .tooDeep "maximum recursion depth exceeded"

def ofScalar (depth : Nat) (x : Labels) (s : Scalar) : Labels :=
  let x := x.noteDepth depth
  match s with
  | .pair a b none => ofScalar (depth + 1) (ofScalar (depth + 1) x a) b
  | .pair a b (some label) =>
    if x.hasMet label then x.meetAgain label
    else ofScalar (depth + 1) (ofScalar (depth + 1) (x.meet label) a) b
  | s =>
    let x := x.noteIf (!s.isShown) .converting Text.Numeral.tooLongNumber
    match s.label? with
    | some label => if x.hasMet label then x.meetAgain label else x.meet label
    | none => x

mutual

def ofValue (depth : Nat) (x : Labels) : Value → Labels
  | .scalar s => ofScalar depth x s
  | .set members => members.foldl (ofScalar (depth + 1)) (x.noteDepth depth)
  | .list items => ofList (depth + 1) (x.noteDepth depth) items
  | .tuple items => ofList (depth + 1) (x.noteDepth depth) items
  | .map fields => ofFields (depth + 1) (x.noteDepth depth) fields
  | .shared label v =>
    if x.hasMet label then x.meetAgain label else ofValue depth (x.meet label) v
  | .again label _ => x.meetAgain label

def ofList (depth : Nat) (x : Labels) : List Value → Labels
  | [] => x
  | v :: rest => ofList depth (ofValue depth x v) rest

def ofFields (depth : Nat) (x : Labels) : Fields → Labels
  | [] => x
  | (k, v) :: rest => ofFields depth (ofValue depth (ofScalar depth x k) v) rest

end

def ofDocument (fields : Fields) : Labels :=
  ofFields 1 ⟨[], [], none⟩ fields

def name? (x : Labels) (label : Nat) : Option Text :=
  if x.repeated.contains label then
    some ("id" ++ paddedNat 3 (x.repeated.idxOf label + 1))
  else none

end Labels

/-- Where a value stands: behind the mark of an item, behind the colon of a key on its line, or
behind a colon on a line of its own. -/
inductive Standing where
  | item
  | onKeyLine
  | onOwnLine
  deriving DecidableEq, Repr

/-- The names of repeated labels, and the labels whose values have been written. -/
structure Written where
  labels : Labels
  done : List Nat
  deriving Repr, Inhabited

abbrev Write := StateM Written

/-- Marks in front of a value, each behind a space. -/
def marksText (marks : List Text) : Text :=
  List.flatten (marks.map (" " ++ ·))

/-- Where the items of a list in some place begin: on the line of the mark before it, or on a new
one. A list behind a key is not indented further. -/
def listPlace (standing : Standing) (marks : List Text) (indent : Nat) : Text × Nat :=
  match standing, marks with
  | .onKeyLine, _ => (lineAt indent, indent)
  | _, [] => (" ", indent + 2)
  | .item, _ => (lineAt (indent + 2), indent + 2)
  | .onOwnLine, _ => (lineAt indent, indent)

def mapPlace (standing : Standing) (marks : List Text) (indent : Nat) : Text :=
  match standing, marks with
  | .onKeyLine, _ => lineAt (indent + 2)
  | _, [] => " "
  | _, _ => lineAt (indent + 2)

/-- A scalar behind some marks, in a collection with an indentation. -/
def markedScalar (marks : List Text) (indent column : Nat) (s : Scalar) : Text :=
  let front := marksText (marks ++ scalarTag s) ++ " "
  front ++ scalarForm true (indent + 2) (column + front.length) s

/-- The name of something with a label that comes again, and whether it was written before. -/
def nameOf (label : Option Nat) : Write (Option (Text × Bool)) := do
  let x ← get
  return do
    let label ← label
    return (← x.labels.name? label, x.done.contains label)

/-- Writes something behind some marks. If it has a label and comes again its name is a mark where
it is written first, and stands for it later. -/
def named (label : Option Nat) (marks : List Text) (write : List Text → Write Text) :
    Write Text := do
  match ← nameOf label with
  | none => write marks
  | some (name, true) => return " *" ++ name
  | some (name, false) =>
    modify fun x => { x with done := label.toList ++ x.done }
    write (marks ++ ["&" ++ name])

/-- A scalar behind a mark or colon at a column; a pair is a list of two items. -/
def scalarText (standing : Standing) (indent column : Nat) : Scalar → Write Text
  | .pair a b label =>
    named label [] fun marks => do
      let marks := marks ++ [tupleTag]
      let (place, indent) := listPlace standing marks indent
      let first ← scalarText .item indent (indent + 1) a
      let second ← scalarText .item indent (indent + 1) b
      return marksText marks ++ place ++ "-" ++ first ++ lineAt indent ++ "-" ++ second
  | s => named s.label? [] fun marks => return markedScalar marks indent column s

def keyText (indent : Nat) (k : Scalar) : Write (Text × Standing) := do
  match ← nameOf k.label? with
  | some (name, true) => return ("*" ++ name ++ ":", .onKeyLine)
  | _ =>
    if isShortKey k then
      let key ← named k.label? [] fun marks =>
        return marksText marks ++ " " ++ scalarForm false (indent + 2) indent k
      return (key.drop 1 ++ ":", .onKeyLine)
    else
      let key ← scalarText .onOwnLine indent (indent + 1) k
      return ("?" ++ key ++ lineAt indent ++ ":", .onOwnLine)

/-- The column behind a key, if its value may be a scalar that is folded. -/
def keyEnd (indent : Nat) (key : Text × Standing) : Nat :=
  match key.2 with
  | .onKeyLine => indent + key.1.length
  | _ => indent + 1

def membersText (indent : Nat) (members : List Scalar) : Write Text := do
  let lines ← members.mapM fun k => do return (← keyText indent k).1 ++ " null"
  return Text.joinWith (lineAt indent) lines

mutual

/-- A value behind a mark or colon at a column, with marks of its own in front. -/
def valueText (standing : Standing) (marks : List Text) (indent column : Nat) :
    Value → Write Text
  | .scalar s => scalarText standing indent column s
  | .list [] => return marksText marks ++ " []"
  | .list (v :: vs) => do
    let (place, indent) := listPlace standing marks indent
    return marksText marks ++ place ++ (← listText indent (v :: vs))
  | .tuple [] => return marksText (marks ++ [tupleTag]) ++ " []"
  | .tuple (v :: vs) => do
    let marks := marks ++ [tupleTag]
    let (place, indent) := listPlace standing marks indent
    return marksText marks ++ place ++ (← listText indent (v :: vs))
  | .map [] => return marksText marks ++ " \x7b\x7d"
  | .map (p :: ps) => do
    return marksText marks ++ mapPlace standing marks indent ++ (← mapText (indent + 2) (p :: ps))
  | .set [] => return marksText (marks ++ [setTag]) ++ " \x7b\x7d"
  | .set (m :: ms) => do
    let marks := marks ++ [setTag]
    return marksText marks ++ mapPlace standing marks indent ++
      (← membersText (indent + 2) (m :: ms))
  | .again label _ => do
    return " *" ++ ((← get).labels.name? label).getD ""
  | .shared label v =>
    named (some label) marks fun marks => valueText standing marks indent column v

/-- The items of a list, all but the first on a line of their own. -/
def listText (indent : Nat) : List Value → Write Text
  | [] => return ""
  | v :: vs => do
    let first ← valueText .item [] indent (indent + 1) v
    let rest ← listText indent vs
    return "-" ++ first ++ (if vs.isEmpty then [] else lineAt indent) ++ rest

def mapText (indent : Nat) : Fields → Write Text
  | [] => return ""
  | (k, v) :: ps => do
    let key ← keyText indent k
    let first ← valueText key.2 [] indent (keyEnd indent key) v
    let rest ← mapText indent ps
    return key.1 ++ first ++ (if ps.isEmpty then [] else lineAt indent) ++ rest

end

end Writing

def writingFault? (fields : Fields) : Option DocumentFault :=
  (Writing.Labels.ofDocument fields).fault

def write (fields : Fields) : Text :=
  if fields.isEmpty then "\x7b\x7d\n"
  else
    let labels := Writing.Labels.ofDocument fields
    ((Writing.mapText 0 fields).run ⟨labels, []⟩).1 ++ "\n"

end BindingNames.Document
