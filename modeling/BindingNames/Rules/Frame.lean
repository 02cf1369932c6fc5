import BindingNames.Rules.Entry
import BindingNames.Rules.Separated
import BindingNames.Workbook

/-!
Tables of rules with labelled columns. The first line of a table labels the columns; a column
without a label gets one from its position, and a label that came before gets a number. Cells
that are empty, hold a word for a missing value or, in a sheet, an error count as absent. Each row
gives one entry, and a row without a pattern gives none.
-/

namespace BindingNames

structure Frame where
  columns : List Scalar
  rows : List (List (Option Text))
  deriving Repr, Inhabited

namespace Frame

def missingWords : List Text :=
  ["", "#N/A", "#N/A N/A", "#NA", "-1.#IND", "-1.#QNAN", "-NaN", "-nan", "1.#IND", "1.#QNAN",
   "<NA>", "N/A", "NA", "NULL", "NaN", "None", "n/a", "nan", "null"]

def present? (s : Text) : Option Text :=
  if missingWords.contains s then none else some s

/-- The labels of columns while they are settled, with the number that the next repetition of a
label gets, latest first. -/
structure Labels where
  names : List Scalar
  counts : List (Scalar × Nat)
  deriving Repr, Inhabited

namespace Labels

def count (x : Labels) (name : Scalar) : Nat :=
  ((x.counts.find? (·.1.sameKey name)).map (·.2)).getD 0

def setCount (x : Labels) (name : Scalar) (n : Nat) : Labels :=
  { x with counts := (name, n) :: x.counts }

/-- A label for the repetition of another one: the first numbered form that no column has. -/
def settled (first : Scalar) : Nat → Nat → Scalar → Labels → Scalar × Labels
  | fuel + 1, n + 1, _, x =>
    let name : Scalar := .text (first.plain ++ "." ++ Text.ofNat (n + 1))
    let x := x.setCount first (n + 2)
    settled first fuel (if x.names.contains name then n + 2 else x.count name) name x
  | _, _, name, x => (name, x)

def settle (x : Labels) (i : Nat) : Labels :=
  let first := x.names.getD i .null
  let (name, x) := settled first (x.names.length + 1) (x.count first) first x
  { x.setCount name 1 with names := x.names.set i name }

end Labels

def isUnnamed (name : Scalar) : Bool :=
  name == .text ""

/-- The labels of the columns with a given header. Columns without a label come last to one. -/
def columnNames (header : List Scalar) : List Scalar :=
  let names := header.zipIdx.map fun (name, i) =>
    if isUnnamed name then .text ("Unnamed: " ++ Text.ofNat i) else name
  let places := header.zipIdx
  let order := places.filter (!isUnnamed ·.1) ++ places.filter (isUnnamed ·.1)
  ((order.map (·.2)).foldl Labels.settle ⟨names, []⟩).names

/-- The frame of separated lines. When the first row is wider than the header, the cells at the
front have no column. -/
def ofLines : List (List Text) → Except TableFault Frame
  | [] => throw .noColumns
  | header :: rows =>
    let extra :=
      match rows with
      | first :: _ => first.length - header.length
      | [] => 0
    return ⟨columnNames (header.map .text), rows.map fun row => (row.drop extra).map present?⟩

def errorWords : List Text :=
  ["#NULL!", "#DIV/0!", "#VALUE!", "#REF!", "#NAME?", "#NUM!", "#N/A"]

/-- What a cell of a sheet holds; a text that is a formula has no stored value, and an error is no
number. -/
def cellScalar (c : Cell) : Scalar :=
  match c.value with
  | .null => .text ""
  | .text s =>
    if Text.beginsWith s "=" && 1 < s.length then .text ""
    else if errorWords.contains s then .float .nan
    else .text s
  | v => v

def cellText? : Scalar → Option Text
  | .text s => present? s
  | .float .nan => none
  | v => some v.plain

/-- The cells of a row without the empty ones at its end. -/
def trimRow (row : List Scalar) : List Scalar :=
  (row.reverse.dropWhile (· == .text "")).reverse

def sheetRows (s : Sheet) : List (List Scalar) :=
  let rows := s.rows.map fun row => trimRow (row.map cellScalar)
  let rows := (rows.reverse.dropWhile (·.isEmpty)).reverse
  let width := (rows.map (·.length)).foldl max 0
  rows.map fun row => row ++ List.replicate (width - row.length) (.text "")

def ofSheet (s : Sheet) : Frame :=
  match sheetRows s with
  | [] => ⟨[], []⟩
  | header :: rows =>
    ⟨columnNames header, rows.map fun row => row.map cellText?⟩

def isTruth : Scalar → Bool
  | .bool _ => true
  | _ => false

/-- Whether a label is a number of 64 bits. -/
def isNumber : Scalar → Bool
  | .int i => -(Nat.pow 2 63 : Nat) ≤ i && i < (Nat.pow 2 63 : Nat)
  | .float _ => true
  | _ => false

/-- Whether a scalar can be a label among some. Truth values are no numbers where all the labels
are of one of these kinds. -/
def admits (columns : List Scalar) (label : Scalar) : Bool :=
  if columns.all isTruth then isTruth label
  else if columns.all isNumber then !isTruth label
  else true

def column? (columns : List Scalar) (label : Scalar) : Option Nat :=
  if admits columns label then columns.findIdx? (·.sameKey label) else none

def scalars? (items : List Value) : Option (List Scalar) :=
  items.mapM fun v =>
    match v.bare with
    | .scalar s => some s
    | _ => none

def asNumbers (labels : List Scalar) : List Scalar :=
  if labels.all fun s => isTruth s || isNumber s then
    labels.map fun s =>
      match s with
      | .bool b => .int (if b then 1 else 0)
      | s => s
  else labels

/-- Whether some labels that are taken together select columns: as many truth values as there are
columns, or labels that all are there. -/
def selects (columns labels : List Scalar) : Bool :=
  if !labels.isEmpty && labels.all isTruth then labels.length == columns.length
  else (asNumbers labels).all fun label => (column? columns label).isSome

mutual

/-- The lengths of nested sequences, if all that are side by side have the same ones. -/
def shape? : Value → Option (List Nat)
  | .list items => (sharedShape? items).map (items.length :: ·)
  | .tuple items => (sharedShape? items).map (items.length :: ·)
  | .shared _ v => shape? v
  | _ => some []

def sharedShape? : List Value → Option (List Nat)
  | [] => some []
  | [v] => shape? v
  | v :: rest =>
    match shape? v, sharedShape? rest with
    | some x, some y => if x = y then some x else none
    | _, _ => none

end

def isNoLabel (v : Value) : Bool :=
  match v.bare with
  | .scalar _ | .tuple _ => false
  | _ => true

/-- What comes of several labels for one cell. Those that select columns have no single value, and
others select nothing; sequences side by side have to be alike. -/
def ofSeveral (columns : List Scalar) (items : List Value) : Except Failure (Option Text) :=
  match scalars? items with
  | some labels => if selects columns labels then throw (.table .ambiguous) else return none
  | none =>
    match sharedShape? items, items.find? isNoLabel with
    | some (_ :: _), _ => return none
    | _, some v => throw (.kind (.notKey v))
    | _, none => return none

def cell? (columns : List Scalar) (row : List (Option Text)) (column : Value) :
    Except Failure (Option Text) :=
  match column.bare with
  | .scalar label => return (column? columns label).bind fun i => (row[i]?).join
  | .list items => ofSeveral columns items
  | .map fields => throw (.kind (.notLabel (.map fields)))
  | .set members => throw (.kind (.notLabel (.set members)))
  | _ => return none

def defaultColumns : Fields :=
  let names : List Text :=
    ["match", "prefix", "directive", "target", "name", "force_function_output"]
  names.map fun s => (.text s, .text s)

/-- The entry of a row: the cells of the mapped columns that are not blank. -/
def entryFields (columns : List Scalar) (row : List (Option Text)) :
    Fields → Except Failure Fields
  | [] => return []
  | (key, column) :: rest => do
    let found ← cell? columns row column
    let others ← entryFields columns row rest
    let s := Text.trim (found.getD "")
    return if s.isEmpty then others else (key, .text s) :: others

def hasPattern (fields : Fields) : Bool :=
  match Value.get? (.text "match") fields with
  | some v => v.holds
  | none => false

def entries (f : Frame) (mapping : Fields) : Except Failure (List Value) :=
  return ((← f.rows.mapM fun row => entryFields f.columns row mapping).filter hasPattern).map .map

def mappingWith (fields : Fields) : Fields :=
  fields.foldl (fun all p => Value.put p.1 p.2 all) defaultColumns

def rules (f : Frame) (columns : Fields) : Except Failure RuleSet := do
  RuleSet.ofEntries (.list (← f.entries (mappingWith columns)))

end Frame

end BindingNames
