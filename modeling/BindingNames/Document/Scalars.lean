import BindingNames.Document.Spot
import BindingNames.Failure
import BindingNames.Text.Code

/-!
The written forms of scalars: between quotes, plain, and as a block of lines. Within quotes and
in plain text the end of a line reads as a space, and blank lines as line feeds. A block keeps
its lines or folds them; the sign behind its mark says what becomes of the line ends after it.
Each reader gives the text and the place behind it.
-/

namespace BindingNames.Document

def scanFault (s : Spot) (heading : Text) : DocumentFault :=
  ⟨.scanning, heading, s.index⟩

namespace Scalars

def blankLines : Nat → Spot → Except DocumentFault (Text × Spot)
  | 0, s => return ([], s)
  | fuel + 1, s =>
    if s.isSeparator then throw (scanFault s "while scanning a quoted scalar")
    else
      let s := s.skip isSpaceOrTab
      match s.takeBreak with
      | (none, _) => return ([], s)
      | (some c, s) => do
        let (cs, s) ← blankLines fuel s
        return (c :: cs, s)

/-- What the end of a line and the blank lines after it read as. -/
def foldedBreak (lineEnd : Code) (blank : Text) : Text :=
  if lineEnd != '\n' then lineEnd :: blank
  else if blank.isEmpty then [' ']
  else blank

def escapes : List (Code × Nat) :=
  [('0', 0), ('a', 7), ('b', 8), ('t', 9), ('\t', 9), ('n', 10), ('v', 11), ('f', 12), ('r', 13),
   ('e', 27), (' ', 32), ('"', 34), ('\\', 92), ('/', 47), ('N', 0x85), ('_', 0xA0),
   ('L', 0x2028), ('P', 0x2029)]

def codeWidths : List (Code × Nat) := [('x', 2), ('u', 4), ('U', 8)]

def isHexDigit (c : Code) : Bool :=
  c.isDigit || ('a' ≤ c && c ≤ 'f') || ('A' ≤ c && c ≤ 'F')

def hexValue (cs : Text) : Nat :=
  cs.foldl (fun n c => 16 * n + (if c.isDigit then c.toNat - 48 else c.toLower.toNat - 87)) 0

def largestCode : Nat := 0x7FFFFFFF

def codeChar (s : Spot) (n : Nat) : Except DocumentFault Code :=
  if largestCode < n then throw ⟨.tooLarge, "Python int too large to convert to C int", s.index⟩
  else if 0x10FFFF < n then throw ⟨.converting, "chr() arg not in range(0x110000)", s.index⟩
  else return Code.ofNat n

def escape (fuel : Nat) (s : Spot) : Except DocumentFault (Text × Spot) :=
  let bad := scanFault s "while scanning a double-quoted scalar"
  match escapes.lookup s.head, codeWidths.lookup s.head with
  | some n, _ => return ([Code.ofNat n], s.next)
  | none, some width =>
    let ds := s.next.rest.take width
    if ds.length == width && ds.all isHexDigit then do
      return ([← codeChar (s.next.forward width) (hexValue ds)], s.next.forward width)
    else throw bad
  | none, none =>
    match s.takeBreak with
    | (some _, s) => blankLines fuel s
    | (none, _) => throw bad

/-- The text up to the closing quote; what has been read comes last first. -/
def quotedRest (double : Bool) (read : Text) :
    Nat → Spot → Except DocumentFault (Text × Spot)
  | 0, s => return (read.reverse, s)
  | fuel + 1, s => do
    let c := s.head
    if c == endMark then throw (scanFault s "while scanning a quoted scalar")
    else if double && c == '\\' then
      let (cs, s) ← escape fuel s.next
      quotedRest double (cs.reverse ++ read) fuel s
    else if double && c == '"' then return (read.reverse, s.next)
    else if !double && c == '\'' then
      if s.peek 1 == '\'' then quotedRest double ('\'' :: read) fuel (s.forward 2)
      else return (read.reverse, s.next)
    else if isGap c then
      let blanks := s.run isSpaceOrTab
      let s := s.skip isSpaceOrTab
      match s.takeBreak with
      | (none, s) => quotedRest double (blanks.reverse ++ read) fuel s
      | (some lineEnd, s) =>
        let (blank, s) ← blankLines fuel s
        quotedRest double ((foldedBreak lineEnd blank).reverse ++ read) fuel s
    else quotedRest double (c :: read) fuel s.next

def quoted (double : Bool) (s : Spot) : Except DocumentFault (Text × Spot) := do
  let (cs, s) ← quotedRest double [] (s.rest.length + 1) s.next
  return (cs, s)

def isFlowMark (c : Code) : Bool :=
  Text.contains ",[]\x7b\x7d" c

/-- Plain text up to the next gap, or to the end of an entry. -/
def plainWord (inFlow : Bool) : Text → Text
  | [] => []
  | c :: cs =>
    let next := cs.headD endMark
    if isGap c || (c == ':' && (isGap next || (inFlow && isFlowMark next))) ||
        (inFlow && (isFlowMark c || c == '?')) then []
    else c :: plainWord inFlow cs

/-- The line feeds of blank lines and the place after them, and whether no document ends there. -/
def plainBlankLines : Nat → Spot → Text × Spot × Bool
  | 0, s => ([], s, true)
  | fuel + 1, s =>
    if s.isSeparator then ([], s, false)
    else
      let s := s.skip (· == Code.char ' ')
      match s.takeBreak with
      | (none, _) => ([], s, true)
      | (some c, s) =>
        let (cs, s, goesOn) := plainBlankLines fuel s
        (c :: cs, s, goesOn)

/-- What parts two words of plain text, the place after it, and whether it ends a line. Without
a text the plain text ends here. -/
def plainGap (fuel : Nat) (s : Spot) : Text × Spot × Bool :=
  let blanks := s.run (· == Code.char ' ')
  let s := s.skip (· == Code.char ' ')
  match s.takeBreak with
  | (none, s) => (blanks, s, false)
  | (some lineEnd, s) =>
    let (blank, s, goesOn) := plainBlankLines fuel s
    (if goesOn then foldedBreak lineEnd blank else [], s, true)

/-- Plain text, the place after it and the gap there, and whether a line has ended there. -/
def plainRest (inFlow : Bool) (least : Nat) (read gap : Text) (lineEnded : Bool) :
    Nat → Spot → Text × Spot × Bool
  | 0, s => (read, s, lineEnded)
  | fuel + 1, s =>
    let word := if s.head == '#' then [] else plainWord inFlow s.rest
    if word.isEmpty then (read, s, lineEnded)
    else
      let read := read ++ gap ++ word
      let (gap, s, lineEnded) := plainGap fuel (s.forward word.length)
      if gap.isEmpty || s.head == '#' || (!inFlow && s.column < least) then (read, s, lineEnded)
      else plainRest inFlow least read gap lineEnded fuel s

/-- Plain text whose lines are indented by at least `least` columns. -/
def plain (inFlow : Bool) (least : Nat) (s : Spot) : Text × Spot × Bool :=
  let (cs, s, lineEnded) := plainRest inFlow least [] [] false (s.rest.length + 1) s
  (cs, s, lineEnded)

/-- What becomes of the line ends after a block. -/
inductive Chomping where
  | clip
  | strip
  | keep
  deriving DecidableEq, Repr

def chomping? (c : Code) : Option Chomping :=
  if c == '+' then some .keep else if c == '-' then some .strip else none

def blockFault (s : Spot) : DocumentFault :=
  scanFault s "while scanning a block scalar"

/-- The indentation that a block states, which is not zero. -/
def statedIndent (s : Spot) : Except DocumentFault (Option Nat × Spot) :=
  let c := s.head
  if c == '0' then throw (blockFault s)
  else if c.isDigit then return (some (c.toNat - 48), s.next)
  else return (none, s)

/-- What stands behind the mark of a block: chomping and indentation, in either order. -/
def blockHead (s : Spot) : Except DocumentFault (Chomping × Option Nat × Spot) :=
  match chomping? s.head with
  | some chomping => do
    let (indent, s) ← statedIndent s.next
    return (chomping, indent, s)
  | none => do
    let (indent, s) ← statedIndent s
    match indent, chomping? s.head with
    | some _, some chomping => return (chomping, indent, s.next)
    | _, _ => return (.clip, indent, s)

def blockStart (s : Spot) : Except DocumentFault Spot :=
  if s.head != ' ' && !isBreakOrEnd s.head then throw (blockFault s)
  else
    let s := s.skipComment
    if isBreakOrEnd s.head then return s.takeBreak.2 else throw (blockFault s)

/-- The blank lines before a block, and the widest of them and of its first line's blanks. -/
def blockIndent (widest : Nat) : Nat → Spot → Text × Nat × Spot
  | 0, s => ([], widest, s)
  | fuel + 1, s =>
    let s := s.skip (· == Code.char ' ')
    let widest := max widest s.column
    match s.takeBreak with
    | (none, _) => ([], widest, s)
    | (some c, s) =>
      let (cs, widest, s) := blockIndent widest fuel s
      (c :: cs, widest, s)

def blockBlankLines (indent : Nat) : Nat → Spot → Text × Spot
  | 0, s => ([], s)
  | fuel + 1, s =>
    let s := s.indentTo indent
    match s.takeBreak with
    | (none, _) => ([], s)
    | (some c, s) =>
      let (cs, s) := blockBlankLines indent fuel s
      (c :: cs, s)

def inBlock (indent : Nat) (s : Spot) : Bool :=
  s.column == indent && s.head != endMark

/-- The lines of a block. `blank` are the line feeds before the next line and `lineEnd` is the
end of the line before. -/
def blockRest (folded : Bool) (indent : Nat) (read blank : Text) (lineEnd : Option Code) :
    Nat → Spot → Text × Text × Option Code × Spot
  | 0, s => (read, blank, lineEnd, s)
  | fuel + 1, s =>
    if !inBlock indent s then (read, blank, lineEnd, s)
    else
      let line := s.run (!isBreakOrEnd ·)
      let startsDark := !isSpaceOrTab s.head
      let read := read ++ blank ++ line
      let (lineEnd, s) := (s.forward line.length).takeBreak
      let (blank, s) := blockBlankLines indent fuel s
      if !inBlock indent s then (read, blank, lineEnd, s)
      else
        let gap : Text :=
          if folded && lineEnd == some (.char '\n') && startsDark && !isSpaceOrTab s.head then
            if blank.isEmpty then " " else []
          else lineEnd.toList
        blockRest folded indent (read ++ gap) blank lineEnd fuel s

def block (folded : Bool) (least : Nat) (s : Spot) : Except DocumentFault (Text × Spot) := do
  let fuel := s.rest.length + 1
  let (chomping, stated, s) ← blockHead s.next
  let s ← blockStart s
  let least := max least 1
  let (blank, indent, s) :=
    match stated with
    | some n =>
      let indent := least + n - 1
      let (blank, s) := blockBlankLines indent fuel s
      (blank, indent, s)
    | none =>
      let (blank, widest, s) := blockIndent 0 fuel s
      (blank, max least widest, s)
  let (read, blank, lineEnd, s) := blockRest folded indent [] blank none fuel s
  let tail :=
    match chomping with
    | .strip => []
    | .clip => lineEnd.toList
    | .keep => lineEnd.toList ++ blank
  return (read ++ tail, s)

def isNameChar (c : Code) : Bool :=
  c.isAlphanum || c == '-' || c == '_'

/-- Whether the name of an anchor may end here. -/
def endsName (c : Code) : Bool :=
  isGap c || Text.contains "?:,]\x7d%@\x60" c

def name (what : Text) (s : Spot) : Except DocumentFault (Text × Spot) :=
  let cs := s.next.run isNameChar
  let s := s.next.forward cs.length
  if cs.isEmpty || !endsName s.head then throw (scanFault s ("while scanning an " ++ what))
  else return (cs, s)

end Scalars

end BindingNames.Document
