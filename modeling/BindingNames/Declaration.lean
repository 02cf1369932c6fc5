import BindingNames.Path
import BindingNames.Text.Blank

/-!
Declarations of a C or C++ header: where they stand, the types they declare and the functions.
A function has a raw name and, when it was read as C++, a mangled one; the name under which a
library exports it is the mangled name when there is one. A member function also names the
class it belongs to.
-/

namespace BindingNames

/-- A place in a file, whose path is in normal form. -/
structure Location where
  file : Text
  line : Int
  column : Option Int
  deriving DecidableEq, Repr, Inhabited

def Location.at (file : Text) (line : Int) (column : Option Int) : Location :=
  ⟨Path.normalText file, line, column⟩

/-- File and line, and the column unless it is absent or zero. -/
def Location.toText (l : Location) : Text :=
  let place := l.file ++ ":" ++ Text.ofInt l.line
  match l.column with
  | none => place
  | some c => if c == 0 then place else place ++ ":" ++ Text.ofInt c

def nonempty? : Option Text → Option Text
  | some s => if s.isEmpty then none else some s
  | none => none

@[simp] theorem nonempty?_none : nonempty? none = none := rfl

theorem nonempty?_eq_some {o : Option Text} {s : Text} :
    nonempty? o = some s ↔ o = some s ∧ s.isEmpty = false := by
  cases o with
  | none => simp [nonempty?]
  | some t =>
    simp only [nonempty?, Option.some.injEq]
    cases h : t.isEmpty with
    | true =>
      simp only [if_true, reduceCtorEq, false_iff, not_and]
      intro e
      simp [← e, h]
    | false =>
      simp only [Bool.false_eq_true, if_false, Option.some.injEq]
      constructor
      · intro e
        exact ⟨e, e ▸ h⟩
      · intro e
        exact e.1

structure Parameter where
  typeName : Text
  name : Option Text
  sizeHint : Option Text
  deriving DecidableEq, Repr, Inhabited

namespace Parameter

/-- The words of the parameter's type, where stars and ampersands separate words too. -/
def typeWords (p : Parameter) : List Text :=
  Text.words (Text.exchange '&' ' ' (Text.exchange '*' ' ' p.typeName))

/-- Whether the parameter's type mentions a type by its name. -/
def namesType (p : Parameter) (type : Text) : Bool :=
  p.typeWords.contains type

def toText (p : Parameter) : Text :=
  match nonempty? p.name with
  | some name => p.typeName ++ " " ++ name
  | none => p.typeName

end Parameter

/-- A record type; it is opaque while its fields are not known. -/
structure TypeDecl where
  name : Text
  fieldsKnown : Bool
  location : Option Location
  deriving DecidableEq, Repr, Inhabited

def TypeDecl.toText (t : TypeDecl) : Text :=
  (if t.fieldsKnown then "struct " else "opaque " : Text) ++ t.name

inductive MemberKind where
  | method
  | construction
  | destruction
  deriving DecidableEq, Repr, Inhabited

structure FunctionDecl where
  rawName : Text
  parameters : List Parameter
  returnType : Option Text
  candidateOwner : Option TypeDecl
  location : Option Location
  mangledName : Option Text
  memberOf : Option Text
  memberKind : Option MemberKind
  deriving DecidableEq, Repr, Inhabited

namespace FunctionDecl

/-- A plain C function of which only the name is known. -/
def ofName (name : Text) : FunctionDecl :=
  ⟨name, [], none, none, none, none, none, none⟩

/-- The name under which a library exports the function. -/
def symbolName (f : FunctionDecl) : Text :=
  (nonempty? f.mangledName).getD f.rawName

def isMember (f : FunctionDecl) : Bool :=
  f.memberOf.isSome

def hasKnownParameters (f : FunctionDecl) : Bool :=
  !f.parameters.isEmpty

def qualifiedName (f : FunctionDecl) : Text :=
  match f.memberOf with
  | some owner => owner ++ "::" ++ f.rawName
  | none => f.rawName

/-- The declaration in the form of a C prototype without a return type. -/
def prototype (f : FunctionDecl) : Text :=
  f.qualifiedName ++ "(" ++ Text.joinWith ", " (f.parameters.map (·.typeName)) ++ ")"

def toText (f : FunctionDecl) : Text :=
  match f.location with
  | some l => f.prototype ++ " (" ++ l.toText ++ ")"
  | none => f.prototype

theorem symbolName_of_no_mangled {f : FunctionDecl} (h : f.mangledName = none) :
    f.symbolName = f.rawName := by
  simp [symbolName, h]

end FunctionDecl

end BindingNames
