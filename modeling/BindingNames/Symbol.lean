import BindingNames.Declaration

/-!
Resolved symbols. A function declaration resolves to a base name and a role: it stays a
function or becomes a method of an owner type. A symbol with the role of a method may still be
emitted as a function. Symbols that are emitted in the same scope must not share a final name;
all functions are one scope and the methods of each owner another.
-/

namespace BindingNames

inductive Role where
  | function
  | method (owner : Text)
  deriving DecidableEq, Repr, Inhabited

namespace Role

def isMethod : Role → Bool
  | .function => false
  | .method _ => true

def owner? : Role → Option Text
  | .function => none
  | .method owner => some owner

def kindName : Role → Text
  | .function => "function"
  | .method _ => "method"

def toText : Role → Text
  | .function => "Function"
  | .method owner => "Method(" ++ owner ++ ")"

end Role

/-- Where a final name has to be unique. -/
inductive Scope where
  | functions
  | methods (owner : Text)
  deriving DecidableEq, Repr, Inhabited

def Scope.key : Scope → List Text
  | .functions => ["function"]
  | .methods owner => ["method", owner]

structure ResolvedSymbol where
  decl : FunctionDecl
  baseName : Text
  finalName : Text
  role : Role
  emitAsFunction : Bool
  deriving DecidableEq, Repr, Inhabited

namespace ResolvedSymbol

def rawName (s : ResolvedSymbol) : Text := s.decl.rawName

def symbolName (s : ResolvedSymbol) : Text := s.decl.symbolName

/-- A symbol whose final name is still its base name. -/
def initial (decl : FunctionDecl) (base : Text) (role : Role) (emit : Bool) : ResolvedSymbol :=
  ⟨decl, base, base, role, emit⟩

def emittedAsMethod (s : ResolvedSymbol) : Bool :=
  s.role.isMethod && !s.emitAsFunction

def scope (s : ResolvedSymbol) : Scope :=
  match s.role, s.emitAsFunction with
  | .method owner, false => .methods owner
  | _, _ => .functions

def withFinalName (s : ResolvedSymbol) (name : Text) : ResolvedSymbol :=
  { s with finalName := name }

def isSuffixed (s : ResolvedSymbol) : Bool :=
  s.finalName != s.baseName

def toText (s : ResolvedSymbol) : Text :=
  s.rawName ++ " -> " ++ s.finalName ++ " (" ++ s.role.toText ++ ")" ++
    if s.emitAsFunction then " [emit as function]" else ""

@[simp] theorem scope_withFinalName (s : ResolvedSymbol) (name : Text) :
    (s.withFinalName name).scope = s.scope := rfl

@[simp] theorem baseName_withFinalName (s : ResolvedSymbol) (name : Text) :
    (s.withFinalName name).baseName = s.baseName := rfl

@[simp] theorem finalName_withFinalName (s : ResolvedSymbol) (name : Text) :
    (s.withFinalName name).finalName = name := rfl

theorem scope_eq_methods_iff {s : ResolvedSymbol} {owner : Text} :
    s.scope = .methods owner ↔ s.role = .method owner ∧ s.emitAsFunction = false := by
  cases s with
  | mk decl base final role emit => cases role <;> cases emit <;> simp [scope]

theorem emittedAsMethod_iff {s : ResolvedSymbol} :
    s.emittedAsMethod ↔ ∃ owner, s.scope = .methods owner := by
  cases s with
  | mk decl base final role emit =>
    cases role <;> cases emit <;> simp [emittedAsMethod, scope, Role.isMethod]

end ResolvedSymbol

structure Warning where
  kind : Text
  rawName : Text
  message : Text
  deriving DecidableEq, Repr, Inhabited

def Warning.toText (w : Warning) : Text :=
  "[" ++ w.kind ++ "] " ++ w.rawName ++ ": " ++ w.message

end BindingNames
