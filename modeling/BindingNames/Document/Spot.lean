import BindingNames.Text.Code

/-!
Places in the text of a document. A place knows what is left of the text, how many characters
precede it, and its line and column. The end of the text reads as the null character, which no
document holds.
-/

namespace BindingNames.Document

structure Spot where
  rest : Text
  index : Nat
  line : Nat
  column : Nat
  deriving Repr, Inhabited

def endMark : Code := Code.ofNat 0

/-- The mark that may begin a text and takes no column. -/
def orderMark : Code := Code.ofNat 0xFEFF

def isBreak (c : Code) : Bool :=
  c == '\n' || c.toNat == 0x85 || c.toNat == 0x2028 || c.toNat == 0x2029

/-- Whether a line, or the text, ends here. -/
def isBreakOrEnd (c : Code) : Bool :=
  c == endMark || isBreak c

def isSpaceOrTab (c : Code) : Bool :=
  c == ' ' || c == '\t'

/-- Whether a word ends here. -/
def isGap (c : Code) : Bool :=
  isSpaceOrTab c || isBreakOrEnd c

namespace Spot

def start (cs : Text) : Spot :=
  ⟨cs, 0, 0, 0⟩

/-- The next character but `n`. -/
def peek (s : Spot) (n : Nat) : Code :=
  s.rest.getD n endMark

def head (s : Spot) : Code :=
  s.peek 0

def next (s : Spot) : Spot :=
  match s.rest with
  | [] => s
  | c :: cs =>
    if isBreak c then ⟨cs, s.index + 1, s.line + 1, 0⟩
    else ⟨cs, s.index + 1, s.line, if c == orderMark then s.column else s.column + 1⟩

def forward : Nat → Spot → Spot
  | 0, s => s
  | n + 1, s => forward n s.next

def run (s : Spot) (p : Code → Bool) : Text :=
  s.rest.takeWhile p

def skip (s : Spot) (p : Code → Bool) : Spot :=
  s.forward (s.run p).length

/-- The end of a line, most kinds of which read as a line feed, and the place after it. -/
def takeBreak (s : Spot) : Option Code × Spot :=
  let c := s.head
  if c == '\n' || c.toNat == 0x85 then (some '\n', s.next)
  else if isBreak c then (some c, s.next)
  else (none, s)

/-- Whether a text of three characters stands here as a word. -/
def isMark (s : Spot) (mark : Text) : Bool :=
  s.rest.take 3 == mark && isGap (s.peek 3)

/-- Whether a line here parts two documents. -/
def isSeparator (s : Spot) : Bool :=
  s.isMark "---" || s.isMark "..."

/-- The place after spaces, at most up to a column. -/
def indentTo (column : Nat) (s : Spot) : Spot :=
  s.forward ((s.run (· == Code.char ' ')).take (column - s.column)).length

def skipComment (s : Spot) : Spot :=
  let s := s.skip (· == Code.char ' ')
  if s.head == '#' then s.skip (!isBreakOrEnd ·) else s

end Spot

end BindingNames.Document
