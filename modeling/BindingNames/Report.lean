import BindingNames.Disk
import BindingNames.Symbol

/-!
The report about resolved symbols, a workbook of two sheets. One lists the symbols, with a
colour for the way each is emitted and its final name in bold where it had to change. The other
counts them by the way they are emitted and lists the warnings. A report is only written when
all its texts can stand in cells.
-/

namespace BindingNames

inductive Emission where
  | method
  | function
  | methodAsFunction
  deriving DecidableEq, Repr, Inhabited

namespace Emission

def ofSymbol (s : ResolvedSymbol) : Emission :=
  if s.emittedAsMethod then .method
  else if s.role.isMethod then .methodAsFunction
  else .function

def name : Emission → Text
  | .method => "method"
  | .function => "function"
  | .methodAsFunction => "method as function"

def colour : Emission → Text
  | .method => "C6EFCE"
  | .function => "DDEBF7"
  | .methodAsFunction => "FFEB9C"

def all : List Emission := [.method, .function, .methodAsFunction]

end Emission

namespace Report

def headings : List Text :=
  ["Cシンボル", "最終名", "基本名", "役割", "オーナー型", "出力形態", "位置"]

def headingColour : Text := "4472C4"

def symbolWidths : List Nat := [32, 28, 28, 12, 16, 20, 40]

def summaryWidths : List Nat := [22, 28, 80]

def lettered (widths : List Nat) : List (Text × Nat) :=
  widths.zipIdx.map fun (w, i) => (Sheet.columnLetter i, w)

def headingCell (s : Text) : Cell :=
  ((Cell.ofText s).filled headingColour).emphasized

def symbolRow (s : ResolvedSymbol) : List Cell :=
  let emission := Emission.ofSymbol s
  let final := Cell.ofText s.finalName
  [.ofText s.rawName, if s.isSuffixed then final.emphasized else final, .ofText s.baseName,
   .ofText s.role.kindName, .ofText (s.role.owner?.getD ""),
   (Cell.ofText emission.name).filled emission.colour,
   .ofText ((s.decl.location.map Location.toText).getD "")]

def symbolSheet (symbols : List ResolvedSymbol) : Sheet :=
  { title := "Symbols"
    rows := headings.map headingCell :: symbols.map symbolRow
    widths := lettered symbolWidths
    merged := []
    freeze := some "A2" }

def row (a b c : Cell) : List Cell := [a, b, c]

def blankRow : List Cell := row .empty .empty .empty

def countRow (s : Text) (n : Nat) : List Cell :=
  row (.ofText s) (.ofNat n) .empty

def boldRow (a b : Cell) : List Cell :=
  row a.emphasized b.emphasized .empty

def count (symbols : List ResolvedSymbol) (e : Emission) : Nat :=
  symbols.countP fun s => Emission.ofSymbol s == e

def suffixed (symbols : List ResolvedSymbol) : Nat :=
  symbols.countP (·.isSuffixed)

def warningRow (w : Warning) : List Cell :=
  row (.ofText w.kind) (.ofText w.rawName) (.ofText w.message)

def summaryRows (stamp : Text) (symbols : List ResolvedSymbol) (warnings : List Warning) :
    List (List Cell) :=
  [row (Cell.ofText "名前解決サマリー").emphasized .empty .empty,
   row (.ofText ("生成日時: " ++ stamp)) .empty .empty, blankRow,
   boldRow (.ofText "出力形態") (.ofText "件数")] ++
    Emission.all.map (fun e => countRow e.name (count symbols e)) ++
    [countRow "接尾辞付与" (suffixed symbols),
     boldRow (.ofText "合計") (.ofNat symbols.length), blankRow,
     row (Cell.ofText ("警告 (" ++ Text.ofNat warnings.length ++ ")")).emphasized .empty .empty] ++
    warnings.map warningRow

def summarySheet (stamp : Text) (symbols : List ResolvedSymbol) (warnings : List Warning) :
    Sheet :=
  { title := "Summary"
    rows := summaryRows stamp symbols warnings
    widths := lettered summaryWidths
    merged := ["A1:C1", "A2:C2"]
    freeze := none }

def build (stamp : Text) (symbols : List ResolvedSymbol) (warnings : List Warning) : Workbook :=
  ⟨[symbolSheet symbols, summarySheet stamp symbols warnings]⟩

/-- The report, if all its texts can stand in cells. -/
def checked (stamp : Text) (symbols : List ResolvedSymbol) (warnings : List Warning) :
    Except Failure Workbook :=
  let w := build stamp symbols warnings
  match w.illegalText? with
  | some s => throw (.illegalCell s)
  | none => return w

def logger : Text := "symmap.io.excel_writer"

end Report

end BindingNames
