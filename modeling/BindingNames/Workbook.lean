import BindingNames.Text.Blank
import BindingNames.Value

/-!
Workbooks of sheets. A cell holds a scalar and may be bold or filled with a colour; empty text
in a cell is the same as no value, and line ends are kept as line feeds. Of a number a cell keeps as
many digits as it shows, and a number that is not finite is no value. A sheet also keeps the
widths of its columns, the ranges that are merged and the cell above which rows stay in view. Text
with control characters has no place in a cell, and with a few other characters it has one, but
the file cannot be read any more.
-/

namespace BindingNames

structure Cell where
  value : Scalar
  bold : Bool
  fill : Option Text
  deriving DecidableEq, Repr, Inhabited

namespace Cell

def empty : Cell := ⟨.null, false, none⟩

def capacity : Nat := 32767

def keptText (s : Text) : Text :=
  Text.unifyLineEnds (s.take capacity)

/-- A plain cell with a text, which is absent when empty. -/
def ofText (s : Text) : Cell :=
  ⟨if s.isEmpty then .null else .text (keptText s), false, none⟩

def ofNat (n : Nat) : Cell := ⟨.int n, false, none⟩

def shownDigits : Nat := 16

def keptNumber (x : Binary64) : Scalar :=
  let y := x.rounded shownDigits
  match y, y.toInt? with
  | .finite _ _ _, some i => .int i
  | .finite _ _ _, none => .float y
  | _, _ => .null

def ofScalar : Scalar → Cell
  | .text s => ofText s
  | .int i => ⟨keptNumber (.ofInt i), false, none⟩
  | .float x => ⟨keptNumber x, false, none⟩
  | v => ⟨v, false, none⟩

def emphasized (c : Cell) : Cell := { c with bold := true }

def filled (c : Cell) (colour : Text) : Cell := { c with fill := some colour }

/-- Characters that cannot stand in a cell: the controls other than tab and line ends. -/
def isIllegal (c : Code) : Bool :=
  let n := c.toNat
  n ≤ 8 || n == 11 || n == 12 || (14 ≤ n && n ≤ 31)

def illegalText? (c : Cell) : Option Text :=
  match c.value with
  | .text s => if s.any isIllegal then some s else none
  | _ => none

/-- Characters that a cell is written with but that its file cannot be read with: halves of
characters, and the two last code points of the first plane. -/
def isUnreadable (c : Code) : Bool :=
  c.isHalf || c.toNat == 0xFFFE || c.toNat == 0xFFFF

def isReadable (c : Cell) : Bool :=
  match c.value with
  | .text s => !s.any isUnreadable
  | _ => true

end Cell

structure Sheet where
  title : Text
  rows : List (List Cell)
  widths : List (Text × Nat)
  merged : List Text
  freeze : Option Text
  deriving DecidableEq, Repr, Inhabited

structure Workbook where
  sheets : List Sheet
  deriving DecidableEq, Repr, Inhabited

namespace Sheet

def ofRows (title : Text) (rows : List (List Scalar)) : Sheet :=
  ⟨title, rows.map (·.map Cell.ofScalar), [], [], none⟩

/-- The letter of a column, counted from zero, among the first 26. -/
def columnLetter (i : Nat) : Text :=
  [Code.ofNat (65 + i % 26)]

def cellName (row column : Nat) : Text :=
  columnLetter column ++ Text.ofNat (row + 1)

def namedCells (s : Sheet) : List (Text × Cell) :=
  s.rows.zipIdx.flatMap fun (cells, i) => cells.zipIdx.map fun (c, j) => (cellName i j, c)

def boldCells (s : Sheet) : List Text :=
  (s.namedCells.filter (·.2.bold)).map (·.1)

def fills (s : Sheet) : List (Text × Text) :=
  s.namedCells.filterMap fun (name, c) => c.fill.map (name, ·)

def illegalText? (s : Sheet) : Option Text :=
  s.rows.findSome? fun cells => cells.findSome? Cell.illegalText?

end Sheet

namespace Workbook

def illegalText? (w : Workbook) : Option Text :=
  w.sheets.findSome? Sheet.illegalText?

def isReadable (w : Workbook) : Bool :=
  w.sheets.all fun s => s.rows.all fun cells => cells.all Cell.isReadable

def sheet? (w : Workbook) (title : Text) : Option Sheet :=
  w.sheets.find? (·.title == title)

end Workbook

end BindingNames
