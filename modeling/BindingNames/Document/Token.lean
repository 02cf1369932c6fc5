import BindingNames.Document.Handles

/-!
The tokens of a document. A collection that is written by indentation begins and ends with
tokens of its own, and a key gets a token in front once the colon behind it is found. Reading
goes on ahead only as far as needed to know whether a token is a key, so a fault in the text is
met only by those who ask for a token that could not be settled before. The same holds for a
character that no document may hold: it is met once reading comes to the part of the text that it
stands in.
-/

namespace BindingNames.Document

inductive Token where
  | directive (body : Preamble)
  | documentStart
  | documentEnd
  | listStart
  | mapStart
  | blockEnd
  | flowListStart
  | flowListEnd
  | flowMapStart
  | flowMapEnd
  | key
  | value
  | item
  | comma
  | alias (name : Text)
  | anchor (name : Text)
  | tag (written : TagText)
  | scalar (text : Text) (plain : Bool)
  | finish
  deriving DecidableEq, Repr, Inhabited

def Token.called : Token → Text
  | .directive _ => "<directive>"
  | .documentStart => "<document start>"
  | .documentEnd => "<document end>"
  | .listStart => "<block sequence start>"
  | .mapStart => "<block mapping start>"
  | .blockEnd => "<block end>"
  | .flowListStart => "["
  | .flowListEnd => "]"
  | .flowMapStart => "\x7b"
  | .flowMapEnd => "\x7d"
  | .key => "?"
  | .value => ":"
  | .item => "-"
  | .comma => ","
  | .alias _ => "<alias>"
  | .anchor _ => "<anchor>"
  | .tag _ => "<tag>"
  | .scalar _ _ => "<scalar>"
  | .finish => "<stream end>"

/-- A place where a key may begin; a required one has to turn out to be a key. -/
structure KeyPlace where
  number : Nat
  required : Bool
  index : Nat
  line : Nat
  column : Nat
  deriving Repr, Inhabited

/-- A reader of tokens: where it stands, the tokens so far with the latest first, how deep it is
in brackets, the columns of the open blocks, and the places of possible keys by depth. At its edge
the text goes on, but with a fault. -/
structure Lexer where
  spot : Spot
  tokens : List Token
  depth : Nat
  indents : List Nat
  keyAllowed : Bool
  keys : List (Nat × KeyPlace)
  done : Bool
  edge : Option (Nat × DocumentFault)
  deriving Repr, Inhabited

namespace Lexer

def start (cs : Text) (edge : Option (Nat × DocumentFault)) : Lexer :=
  ⟨.start cs, [], 0, [], true, [], false, edge⟩

/-- The least column at which the current block goes on. -/
def least (x : Lexer) : Nat :=
  match x.indents with
  | [] => 0
  | n :: _ => n + 1

def count (x : Lexer) : Nat :=
  x.tokens.length

def emit (x : Lexer) (t : Token) : Lexer :=
  { x with tokens := t :: x.tokens }

/-- Puts a token in front of the one with a number. -/
def insert (x : Lexer) (number : Nat) (t : Token) : Lexer :=
  let later := x.count - number
  { x with tokens := x.tokens.take later ++ t :: x.tokens.drop later }

def forward (x : Lexer) (n : Nat) : Lexer :=
  { x with spot := x.spot.forward n }

def allowKey (x : Lexer) (b : Bool) : Lexer :=
  { x with keyAllowed := b }

/-- How many tokens are settled: those before the first that may still be a key. -/
def settled (x : Lexer) : Nat :=
  (x.keys.map (·.2.number)).foldl min x.count

def keyFault (x : Lexer) : DocumentFault :=
  scanFault x.spot "while scanning a simple key"

def keyReach : Nat := 1024

/-- Whether the key that begins at a place could still end here. -/
def reaches (x : Lexer) (k : KeyPlace) : Bool :=
  k.line == x.spot.line && x.spot.index - k.index ≤ keyReach

/-- Gives up the places of keys that are too far behind. -/
def dropStale (x : Lexer) : Except DocumentFault Lexer :=
  if x.keys.any fun (_, k) => !x.reaches k && k.required then throw x.keyFault
  else return { x with keys := x.keys.filter fun (_, k) => x.reaches k }

def dropKey (x : Lexer) : Except DocumentFault Lexer :=
  match x.keys.lookup x.depth with
  | none => return x
  | some k =>
    if k.required then throw x.keyFault
    else return { x with keys := x.keys.filter (·.1 != x.depth) }

def noteKey (x : Lexer) : Except DocumentFault Lexer :=
  if !x.keyAllowed then return x
  else do
    let required := x.depth == 0 && x.indents.head? == some x.spot.column
    let y ← x.dropKey
    let place : KeyPlace := ⟨y.count, required, y.spot.index, y.spot.line, y.spot.column⟩
    return { y with keys := (y.depth, place) :: y.keys }

/-- Ends the blocks that begin right of a column. -/
def unwindIn (column : Nat) (x : Lexer) : List Nat → Lexer
  | [] => { x with indents := [] }
  | n :: ns =>
    if column < n then unwindIn column (x.emit .blockEnd) ns else { x with indents := n :: ns }

def unwind (x : Lexer) (column : Nat) : Lexer :=
  if x.depth == 0 then unwindIn column x x.indents else x

def unwindAll (x : Lexer) : Lexer :=
  if x.depth == 0 then
    { x with tokens := x.indents.map (fun _ => Token.blockEnd) ++ x.tokens, indents := [] }
  else x

/-- Whether a block that begins at a column is a new one. -/
def opens (x : Lexer) (column : Nat) : Bool :=
  x.least ≤ column

def openBlock (x : Lexer) (column : Nat) : Lexer :=
  { x with indents := column :: x.indents }

/-- Moves on to the next token. The end of a line allows a key outside brackets. -/
def skipGaps : Nat → Lexer → Lexer
  | 0, x => x
  | fuel + 1, x =>
    let s := x.spot.skipComment
    match s.takeBreak with
    | (none, _) => { x with spot := s }
    | (some _, s) => skipGaps fuel { x with spot := s, keyAllowed := x.keyAllowed || x.depth == 0 }

def finish (x : Lexer) : Except DocumentFault Lexer := do
  let x ← x.unwindAll.dropKey
  return { (x.emit .finish) with keyAllowed := false, keys := [], done := true }

def separator (x : Lexer) (t : Token) : Except DocumentFault Lexer := do
  let x ← x.unwindAll.dropKey
  return ((x.allowKey false).forward 3).emit t

def directive (x : Lexer) : Except DocumentFault Lexer := do
  let x ← x.unwindAll.dropKey
  let (body, s) ← Handles.preamble x.spot
  return { (x.emit (.directive body)) with spot := s, keyAllowed := false }

def openBracket (x : Lexer) (t : Token) : Except DocumentFault Lexer := do
  let x ← x.noteKey
  return (({ x with depth := x.depth + 1, keyAllowed := true } : Lexer).forward 1).emit t

def closeBracket (x : Lexer) (t : Token) : Except DocumentFault Lexer := do
  let x ← x.dropKey
  return (({ x with depth := x.depth - 1, keyAllowed := false } : Lexer).forward 1).emit t

def comma (x : Lexer) : Except DocumentFault Lexer := do
  let x ← (x.allowKey true).dropKey
  return (x.forward 1).emit .comma

/-- Begins a block here if it is a new one, where one is allowed. -/
def beginBlock (x : Lexer) (t : Token) (complaint : Text) : Except DocumentFault Lexer :=
  if x.depth != 0 then return x
  else if !x.keyAllowed then throw (scanFault x.spot complaint)
  else if x.opens x.spot.column then return (x.openBlock x.spot.column).emit t
  else return x

def item (x : Lexer) : Except DocumentFault Lexer := do
  let x ← x.beginBlock .listStart "sequence entries are not allowed here"
  let x ← (x.allowKey true).dropKey
  return (x.forward 1).emit .item

def key (x : Lexer) : Except DocumentFault Lexer := do
  let x ← x.beginBlock .mapStart "mapping keys are not allowed here"
  let x ← (x.allowKey (x.depth == 0)).dropKey
  return (x.forward 1).emit .key

/-- A colon. A key that may end here is one. -/
def value (x : Lexer) : Except DocumentFault Lexer := do
  match x.keys.lookup x.depth with
  | some k =>
    let x := { x with keys := x.keys.filter (·.1 != x.depth) }
    let x := x.insert k.number .key
    let x :=
      if x.depth == 0 && x.opens k.column then (x.openBlock k.column).insert k.number .mapStart
      else x
    return ((x.allowKey false).forward 1).emit .value
  | none =>
    let x ← x.beginBlock .mapStart "mapping values are not allowed here"
    let x ← (x.allowKey (x.depth == 0)).dropKey
    return (x.forward 1).emit .value

def keyable (x : Lexer) (read : Spot → Except DocumentFault (Token × Spot × Bool)) :
    Except DocumentFault Lexer := do
  let x ← x.noteKey
  let (t, s, keyAllowed) ← read x.spot
  return { (x.emit t) with spot := s, keyAllowed }

def named (what : Text) (t : Text → Token) (x : Lexer) : Except DocumentFault Lexer :=
  x.keyable fun s => do
    let (name, s) ← Scalars.name what s
    return (t name, s, false)

def tagged (x : Lexer) : Except DocumentFault Lexer :=
  x.keyable fun s => do
    let (t, s) ← Handles.tag s
    return (.tag t, s, false)

def quoted (double : Bool) (x : Lexer) : Except DocumentFault Lexer :=
  x.keyable fun s => do
    let (text, s) ← Scalars.quoted double s
    return (.scalar text false, s, false)

def plain (x : Lexer) : Except DocumentFault Lexer :=
  x.keyable fun s =>
    let (text, s, lineEnded) := Scalars.plain (x.depth != 0) x.least s
    return (.scalar text true, s, lineEnded)

def block (folded : Bool) (x : Lexer) : Except DocumentFault Lexer := do
  let x ← (x.allowKey true).dropKey
  let (text, s) ← Scalars.block folded x.least x.spot
  return { (x.emit (.scalar text false)) with spot := s }

/-- Characters that do not begin plain text. -/
def indicators : Text :=
  ['-', '?', ':', ',', '[', ']', '\x7b', '\x7d', '#', '&', '*', '!', '|', '>', '\'', '"', '%',
   '@', '\x60']

def beginsPlain (x : Lexer) : Bool :=
  let c := x.spot.head
  (!isGap c && !indicators.contains c) ||
    !isGap (x.spot.peek 1) && (c == '-' || (x.depth == 0 && (c == '?' || c == ':')))

def readToken (x : Lexer) : Except DocumentFault Lexer :=
  let c := x.spot.head
  let inFlow := x.depth != 0
  let gapNext := isGap (x.spot.peek 1)
  let atMargin := x.spot.column == 0
  if c == endMark then x.finish
  else if c == '%' && atMargin then x.directive
  else if atMargin && x.spot.isMark ['-', '-', '-'] then x.separator .documentStart
  else if atMargin && x.spot.isMark ['.', '.', '.'] then x.separator .documentEnd
  else if c == '[' then x.openBracket .flowListStart
  else if c == '\x7b' then x.openBracket .flowMapStart
  else if c == ']' then x.closeBracket .flowListEnd
  else if c == '\x7d' then x.closeBracket .flowMapEnd
  else if c == ',' then x.comma
  else if c == '-' && gapNext then x.item
  else if c == '?' && (inFlow || gapNext) then x.key
  else if c == ':' && (inFlow || gapNext) then x.value
  else if c == '*' then x.named "alias" .alias
  else if c == '&' then x.named "anchor" .anchor
  else if c == '!' then x.tagged
  else if c == '|' && !inFlow then x.block false
  else if c == '>' && !inFlow then x.block true
  else if c == '\'' then x.quoted false
  else if c == '"' then x.quoted true
  else if x.beginsPlain then x.plain
  else throw (scanFault x.spot "while scanning for the next token")

/-- Reads the next tokens, as if the text had no edge. -/
def readOn (x : Lexer) : Except DocumentFault Lexer := do
  let x ← (skipGaps (x.spot.rest.length + 1) x).dropStale
  (← (x.unwind x.spot.column).readToken).dropStale

/-- What is read up to a place, or the fault at the edge if that lies before it. -/
def within (x : Lexer) (index : Nat) (read : Except DocumentFault Lexer) :
    Except DocumentFault Lexer :=
  match x.edge with
  | some (edge, fault) => if edge ≤ index then .error fault else read
  | none => read

/-- Reads the next tokens, unless all are read. -/
def step (x : Lexer) : Except DocumentFault Lexer :=
  match x.readOn with
  | .ok y => x.within y.spot.index (.ok y)
  | .error fault => x.within fault.index (.error fault)

/-- Reads tokens to the end or to a fault, and gives those that are settled then. -/
def run : Nat → Lexer → List Token × Option DocumentFault
  | 0, x => (x.tokens.reverse, none)
  | fuel + 1, x =>
    if x.done then (x.tokens.reverse, none)
    else
      match x.step with
      | .ok y => run fuel y
      | .error fault => (x.tokens.reverse.take x.settled, some fault)

/-- A text without the mark that may begin it. -/
def begin (cs : Text) (edge : Option (Nat × DocumentFault)) : Lexer :=
  let x := start cs edge
  if x.spot.head == orderMark then x.forward 1 else x

end Lexer

/-- The settled tokens of a text, and the fault that comes after them. A text may have an edge,
beyond which there is a fault. -/
def tokens (cs : Text) (edge : Option (Nat × DocumentFault)) :
    List Token × Option DocumentFault :=
  (Lexer.begin cs edge).run (cs.length + 2)

end BindingNames.Document
