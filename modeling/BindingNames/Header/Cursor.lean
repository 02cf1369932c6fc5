import BindingNames.Declaration

/-!
Trees of cursors, as a parser of C and C++ gives them for a unit it has read. A cursor stands for
a declaration or a block of them. What extraction needs of it is its kind and spelling, the place
in a file, the arguments of a function and, for a type definition, the record behind it.
-/

namespace BindingNames

inductive CursorKind where
  | block
  | record
  | typedef
  | function
  | method
  | construction
  | destruction
  | other
  deriving DecidableEq, Repr, Inhabited

namespace CursorKind

/-- The kinds by the names that parsers give them. -/
def named : List (Text × CursorKind) :=
  [("LINKAGE_SPEC", .block), ("NAMESPACE", .block), ("STRUCT_DECL", .record),
   ("UNION_DECL", .record), ("CLASS_DECL", .record), ("TYPEDEF_DECL", .typedef),
   ("FUNCTION_DECL", .function), ("CXX_METHOD", .method), ("CONSTRUCTOR", .construction),
   ("DESTRUCTOR", .destruction)]

def ofName (s : Text) : CursorKind :=
  (named.lookup s).getD .other

def memberKind? : CursorKind → Option MemberKind
  | .method => some .method
  | .construction => some .construction
  | .destruction => some .destruction
  | _ => none

end CursorKind

/-- An argument of a function: whether it is a pointer, and whether its type is one of the whole
numbers that count things. -/
structure Argument where
  name : Text
  typeName : Text
  isPointer : Bool
  isCount : Bool
  deriving DecidableEq, Repr, Inhabited

structure CursorPlace where
  file : Text
  line : Int
  column : Option Int
  deriving DecidableEq, Repr, Inhabited

def CursorPlace.toLocation (p : CursorPlace) : Location :=
  .at p.file p.line p.column

structure CursorInfo where
  kind : CursorKind
  spelling : Text
  place : Option CursorPlace
  isDefinition : Bool
  typeName : Text
  resultType : Text
  arguments : List Argument
  mangledName : Text
  isPublic : Bool
  isStatic : Bool
  /-- Whether the record that a type definition names is defined; `none` if it names none. -/
  record : Option Bool
  deriving DecidableEq, Repr, Inhabited

inductive Cursor where
  | node (info : CursorInfo) (children : List Cursor)
  deriving Repr, Inhabited

namespace Cursor

def info : Cursor → CursorInfo
  | node i _ => i

@[simp] theorem info_node (i : CursorInfo) (cs : List Cursor) : (node i cs).info = i := rfl

end Cursor

structure Diagnostic where
  severity : Int
  text : Text
  deriving DecidableEq, Repr, Inhabited

namespace Diagnostic

/-- The severity from which on a remark is about an error. -/
def errorSeverity : Int := 3

def isError (d : Diagnostic) : Bool :=
  errorSeverity ≤ d.severity

end Diagnostic

structure HeaderUnit where
  cursors : List Cursor
  diagnostics : List Diagnostic
  deriving Repr, Inhabited

end BindingNames
