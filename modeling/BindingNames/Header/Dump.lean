import BindingNames.Header.Cursor
import BindingNames.Value

/-!
Parsed units as values of a document. A document of units maps the path of each file to a
mapping with its cursors and diagnostics. A cursor is a mapping too; what it does not mention is
empty or false, and a member of a record is public unless it says otherwise.
-/

namespace BindingNames.Dump

def field? (v : Value) (name : Text) : Option Value :=
  match v with
  | .map fields => Value.get? (.text name) fields
  | _ => none

def textField? (v : Value) (name : Text) : Option Text :=
  (field? v name).bind Value.asText?

def textField (v : Value) (name : Text) : Text :=
  (textField? v name).getD ""

def intField? (v : Value) (name : Text) : Option Int :=
  match field? v name with
  | some (.scalar (.int i)) => some i
  | _ => none

def isSet (v : Value) (name : Text) : Bool :=
  (field? v name).any Value.holds

def listField (v : Value) (name : Text) : List Value :=
  match field? v name with
  | some (.list items) => items
  | _ => []

def countKinds : List Text := ["INT", "UINT", "LONG", "ULONG", "LONGLONG", "ULONGLONG"]

def argument (v : Value) : Argument :=
  let kind := textField v "kind"
  { name := textField v "name"
    typeName := textField v "type"
    isPointer := kind == "POINTER"
    isCount := countKinds.contains ((textField? v "canonical").getD kind) }

def place? (v : Value) : Option CursorPlace :=
  (textField? v "file").map fun file => ⟨file, (intField? v "line").getD 0, intField? v "column"⟩

def record? (v : Value) : Option Bool :=
  match field? v "record" with
  | some r =>
    if CursorKind.ofName (textField r "kind") = .record then some (isSet r "defined") else none
  | none => none

def info (v : Value) : CursorInfo :=
  { kind := .ofName (textField v "kind")
    spelling := textField v "spelling"
    place := place? v
    isDefinition := isSet v "defined"
    typeName := textField v "type"
    resultType := (textField? v "result").getD "void"
    arguments := (listField v "args").map argument
    mangledName := textField v "mangled"
    isPublic := (textField? v "access").getD "PUBLIC" == "PUBLIC"
    isStatic := isSet v "static"
    record := record? v }

mutual

def cursor : Value → Cursor
  | .map fields => .node (info (.map fields)) (children fields)
  | v => .node (info v) []

def cursors : List Value → List Cursor
  | [] => []
  | v :: rest => cursor v :: cursors rest

def children : Fields → List Cursor
  | [] => []
  | (k, .list items) :: rest => if k = .text "children" then cursors items else children rest
  | _ :: rest => children rest

end

def diagnostic : Value → Diagnostic
  | .list [.scalar (.int severity), text] => ⟨severity, (text.asText?).getD ""⟩
  | _ => ⟨0, ""⟩

/-- A unit; no value is a file that the parser gives nothing for. -/
def unit? : Value → Option HeaderUnit
  | .map fields =>
    let v := Value.map fields
    some ⟨cursors (listField v "cursors"), (listField v "diagnostics").map diagnostic⟩
  | _ => none

def units : Value → List (Text × Option HeaderUnit)
  | .map fields => fields.map fun (k, v) => (k.plain, unit? v)
  | _ => []

end BindingNames.Dump
