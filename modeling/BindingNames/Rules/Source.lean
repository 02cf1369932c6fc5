import BindingNames.Disk
import BindingNames.Document.Reading
import BindingNames.Fields
import BindingNames.Rules.Frame

/-!
Sources of rules: files that hold a document, a table of separated values or a workbook. A
document is a list of entries, or a mapping with entries and a symbol map. The setting of a
source names its type and its path; a table may say which columns to use, and a workbook which
sheet.
-/

namespace BindingNames

namespace RuleSource

def field (source : Fields) (name : Text) (absent : Value) : Value :=
  (Value.get? (.text name) source).getD absent

def loaded (count : Nat) (what path : Text) : Logged Unit :=
  Logged.tell RuleSet.logger Level.info
    ("Loaded " ++ Text.ofNat count ++ " rules from " ++ what ++ ": " ++ path)

/-- The rules of a document: its entries and those of its symbol map. -/
def ofDocument (path : Text) (document : Value) : Logged RuleSet :=
  match document.bare with
  | .list entries => Logged.lift (RuleSet.ofEntries (.list entries))
  | .map fields => do
    let s ← Logged.lift (RuleSet.ofEntries (field fields "rules" (.list [])))
    let other := field fields "sym_map" (.map [])
    return s.append (← RuleSet.ofSymbolMap (field fields "symMap" other))
  | _ => Logged.fail (.rulesShape path)

def readDocument (d : Disk) (p : Path) : Except Failure Value := do
  let text ← (d.readText p).mapError Failure.file
  (Document.read text).mapError Failure.document

def loadDocument (d : Disk) (p : Path) : Logged RuleSet := do
  let v ← Logged.lift (readDocument d p)
  let s ← ofDocument p.toText (if v.holds then v else .list [])
  loaded s.drafts.length "YAML" p.toText
  return s

def ofFrame (f : Frame) (columns : Value) : Except Failure RuleSet := do
  f.rules (← columns.toFieldsOrNone.mapError Failure.kind)

def readTable (d : Disk) (p : Path) : Except Failure Frame := do
  let text ← (d.readRaw p).mapError Failure.file
  let lines ← (Separated.read text).mapError Failure.table
  (Frame.ofLines lines).mapError Failure.table

def loadTable (d : Disk) (p : Path) (columns : Value) : Logged RuleSet := do
  let f ← Logged.lift (readTable d p)
  let s ← Logged.lift (ofFrame f columns)
  loaded s.drafts.length "CSV" p.toText
  return s

def readWorkbook (d : Disk) (p : Path) : Except Failure Workbook := do
  match ← (d.openFile p).mapError Failure.file with
  | .workbook w => (Disk.readWorkbook w).mapError Failure.table
  | _ => throw (.table .notWorkbook)

/-- The sheet that stands at an index, counted from the end if negative. -/
def sheetAt (w : Workbook) (label : Scalar) (i : Int) : Except Failure Sheet :=
  let place := if i < 0 then i + w.sheets.length else i
  match w.sheets[place.toNat]? with
  | some s => if place < 0 then throw .emptyCommand else return s
  | none => throw (.table (.noSheetAt label w.sheets.length))

/-- The sheet that a scalar names or counts. A broken number counts none, but may be too large. -/
def sheetLabelled (w : Workbook) : Scalar → Except Failure Sheet
  | .text title =>
    match w.sheet? title with
    | some s => return s
    | none => throw (.table (.noSheet title))
  | .int i => sheetAt w (.int i) i
  | .bool b => sheetAt w (.bool b) (if b then 1 else 0)
  | .float x =>
    if x.isBelow w.sheets.length then throw (.kind (.notPosition (.scalar (.float x))))
    else throw (.table (.noSheetAt (.float x) w.sheets.length))
  | other => throw (.kind (.unordered ">=" (.scalar other) (.int 0)))

/-- A scalar that can name or count a sheet; a tuple cannot, and nothing else can be a label. -/
def sheetLabel (v : Value) : Except Failure Scalar :=
  match v.bare with
  | .scalar s => return s
  | .tuple items => throw (.kind (.unordered ">=" (.tuple items) (.int 0)))
  | other => throw (.kind (.notKey other))

/-- The sheet that a setting names, or else the first one. A list names sheets that are no table
when they are taken together. -/
def sheetFor (w : Workbook) (setting : Value) : Except Failure Sheet :=
  if !setting.holds then sheetAt w (.int 0) 0
  else
    match setting.bare with
    | .list items => do
      let labels ← items.mapM sheetLabel
      let _ ← labels.mapM (sheetLabelled w)
      throw (.kind (.noOperation (.map []) "iterrows"))
    | other => do sheetLabelled w (← sheetLabel other)

def loadWorkbook (d : Disk) (p : Path) (sheet columns : Value) : Logged RuleSet := do
  let w ← Logged.lift (readWorkbook d p)
  let s ← Logged.lift (sheetFor w sheet)
  let rules ← Logged.lift (ofFrame (.ofSheet s) columns)
  loaded rules.drafts.length "Excel" p.toText
  return rules

def lowerByte (b : UInt8) : UInt8 :=
  if 65 ≤ b && b ≤ 90 then b + 32 else b

/-- The type that a source names, in lower case. Bytes name one too, but none that there is. -/
def typeOf : Value → Except Failure Scalar
  | .scalar (.text s) => return .text (Text.lower s)
  | .scalar (.bytes b) => return .bytes (b.map lowerByte)
  | other => throw (.kind (.noOperation other "lower"))

def load (d : Disk) (source : Fields) : Logged RuleSet := do
  let type ← Logged.lift (typeOf (field source "type" (.text "yaml")))
  let path := field source "path" .null
  if !path.holds then Logged.fail .noRulesPath
  else
    match path with
    | .scalar (.text s) =>
      let p := Path.ofText s
      let columns := field source "columns" (.map [])
      let isThere ← Logged.lift ((d.has p).mapError Failure.file)
      if !isThere then Logged.fail (.rulesMissing p.toText)
      else if type == .text "excel" then loadWorkbook d p (field source "sheet" .null) columns
      else if type == .text "csv" then loadTable d p columns
      else if type == .text "yaml" then loadDocument d p
      else Logged.fail (.rulesKind type)
    | other => Logged.fail (.kind (.notPath other))

end RuleSource

end BindingNames
