import BindingNames.Header.Dump
import BindingNames.Run

/-!
Recordings of what surrounds a run. A recording is a document: the units that the parser gives
for files, the commands and their outputs, the platform, the places of the parser's library, the
files with their contents, and the time. What a recording does not mention is not there. A
workbook is a list of sheets, each with its title and the values of its cells.
-/

namespace BindingNames.Recording

open Dump (textField textField? intField? isSet listField field?)

def textsField (v : Value) (name : Text) : List Text :=
  (listField v name).filterMap Value.asText?

def command (v : Value) : Library.Command :=
  ⟨textsField v "argv", textField v "stdout", textField v "stderr", (intField? v "code").getD 0⟩

def usualPlatform : Text := "linux"

def surroundings (v : Value) : Library.Surroundings :=
  ⟨(nonempty? (textField? v "platform")).getD usualPlatform, (listField v "commands").map command,
    !isSet v "no_nm"⟩

def parser (v : Value) : Parser :=
  .ofUnits (Dump.units ((field? v "units").getD .null))

def places (v : Value) : ParserPlaces :=
  ⟨textField? v "create_error", textsField v "lib_dirs"⟩

def stamp (v : Value) : Text :=
  (textField? v "time").getD "1970-01-01 00:00:00,000"

def tools (v : Value) : Tools :=
  ⟨parser v, places v, surroundings v, stamp v⟩

def scalar : Value → Scalar
  | .scalar s => s
  | _ => .null

def row : Value → List Scalar
  | .list cells => cells.map scalar
  | _ => []

def sheet : Value → Sheet
  | .list [title, .list rows] => .ofRows ((title.asText?).getD "") (rows.map row)
  | _ => .ofRows "" []

/-- What is at a place: a text, a workbook, or else a directory. -/
def node : Value → Node
  | .scalar (.text s) => .text s
  | .map fields => .workbook ⟨(listField (.map fields) "xlsx").map sheet⟩
  | _ => .directory

def files (v : Value) : List (Path × Node) :=
  match field? v "files" with
  | some (.map fields) => fields.map fun (k, x) => (Path.ofText k.plain, node x)
  | _ => []

def ofSheet (s : Sheet) : Value :=
  .list [.text s.title, .list (s.rows.map fun cells => .list (cells.map fun c => .scalar c.value))]

def ofWorkbook (w : Workbook) : Value :=
  .map [(.text "xlsx", .list (w.sheets.map ofSheet))]

end BindingNames.Recording
