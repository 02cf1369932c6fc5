import BindingNames.Failure

/-!
Tables of comma separated values. A field may stand in quotes, where a comma or a line end
belongs to it and a quote is written twice. Lines with nothing but blanks are passed over. A comma
behind a carriage return begins the next line. The first line that is left is the header. From the
third line on no line may have more fields than the line before; a shorter one is filled up with
empty fields.
-/

namespace BindingNames

namespace Separated

/-- What precedes a place between two lines: the end of a line, blanks behind it, or a carriage
return that ended a line of blanks. -/
inductive Gap where
  | lineEnd
  | blanks
  | skippedReturn
  deriving DecidableEq, Repr

def isPlainBlank (c : Code) : Bool :=
  c == ' ' || c == '\t'

/-- The text from where the next line begins, if there is one, and its number. The number of the
line at hand is `line`, and `whole` is the text from its beginning. A comma behind a carriage return
that ended a line of blanks is lost unless blanks follow it. -/
def nextLine (whole : Text) (line : Nat) (gap : Gap) : Text → Nat × Option Text
  | [] => (line, none)
  | c :: cs =>
    if c == '\n' then nextLine cs (if gap = .skippedReturn then line else line + 1) .lineEnd cs
    else if c == '\r' then nextLine cs (line + 1) .skippedReturn cs
    else if isPlainBlank c then nextLine whole line .blanks cs
    else if c == ',' && gap == .skippedReturn then nextLine whole line .lineEnd cs
    else (line, some (if gap = .blanks then whole else c :: cs))

inductive Position where
  | fieldStart
  | plain
  | inQuotes
  | afterQuote
  | afterReturn
  deriving DecidableEq, Repr

/-- What has been read: the current field and the finished fields and lines, all latest first,
and the number of the current line, those passed over included. -/
structure State where
  position : Position
  field : Text
  fields : List Text
  lines : List (List Text)
  line : Nat
  deriving Repr

namespace State

def start : State := ⟨.fieldStart, [], [], [], 1⟩

def push (s : State) (c : Code) : State :=
  { s with field := c :: s.field }

def endField (s : State) : State :=
  let field := s.field.reverse
  { s with position := .fieldStart, field := [], fields := field :: s.fields }

/-- The width that the current line may have; the header and the line after it are free. -/
def widthLimit (s : State) : Option Nat :=
  match s.lines with
  | last :: _ :: _ => some last.length
  | _ => none

def leastWidth (s : State) : Nat :=
  match s.lines with
  | last :: _ => last.length
  | [] => 0

/-- The state after the current line, filled up. -/
def finishLine (s : State) : State :=
  let padded := s.fields.reverse ++ List.replicate (s.leastWidth - s.fields.length) []
  { s with position := .fieldStart, fields := [], lines := padded :: s.lines, line := s.line + 1 }

def endLine (s : State) : Except TableFault State :=
  match s.widthLimit with
  | some limit =>
    if limit < s.fields.length then throw (.tooManyFields limit s.line s.fields.length)
    else return s.finishLine
  | none => return s.finishLine

/-- The end of the text ends the last line, and must not come inside quotes. -/
def close (s : State) : Except TableFault State :=
  match s.position with
  | .inQuotes => throw (.unclosedQuote (s.line - 1))
  | .afterReturn => s.endLine
  | _ => s.endField.endLine

end State

/-- Reads up to the end of a line. The text behind it is given if there is any left. -/
def readLine (s : State) : Text → Except TableFault (State × Text)
  | [] => return (← s.close, [])
  | c :: cs =>
    if s.position = .inQuotes then
      if c == '"' then readLine { s with position := .afterQuote } cs else readLine (s.push c) cs
    else if s.position = .afterReturn then do
      let ended ← s.endLine
      if c == '\n' then return (ended, cs)
      else if c == ',' then readLine ended.endField cs
      else return (ended, c :: cs)
    else if c == '\n' then return (← s.endField.endLine, cs)
    else if c == '\r' then readLine { s.endField with position := .afterReturn } cs
    else if c == ',' then readLine s.endField cs
    else if c == '"' && s.position == .fieldStart then
      readLine { s with position := .inQuotes } cs
    else if c == '"' && s.position == .afterQuote then
      readLine { s.push c with position := .inQuotes } cs
    else readLine { s.push c with position := .plain } cs

/-- Reads lines until none is left. Every line takes at least a character. -/
def readLines : Nat → State → Text → Except TableFault State
  | 0, s, _ => return s
  | fuel + 1, s, cs =>
    match nextLine cs s.line .lineEnd cs with
    | (_, none) => return s
    | (line, some rest) => do
      let (s, rest) ← readLine { s with line } rest
      readLines fuel s rest

def dropMark : Text → Text
  | c :: cs => if c.toNat == 0xFEFF then cs else c :: cs
  | [] => []

def read (s : Text) : Except TableFault (List (List Text)) := do
  let cs := dropMark s
  return (← readLines (cs.length + 1) State.start cs).lines.reverse

/-- A field in quotes, as `read` takes it. -/
def quotedField (s : Text) : Text :=
  "\"" ++ (s.flatMap fun c : Code => if c == '"' then "\"\"" else [c]) ++ "\""

/-- A table with every field in quotes and every line ended. -/
def render (lines : List (List Text)) : Text :=
  List.flatten (lines.map fun fields => Text.joinWith "," (fields.map quotedField) ++ "\n")

end Separated

end BindingNames
