import BindingNames.NameStyle
import BindingNames.RuleTable
import BindingNames.Symbol
import BindingNames.Trimming

/-!
Resolution of one declaration. A role rule decides between function and method, and without one
a function becomes a method of the type whose name begins its own. Names that are derived are
trimmed and styled; names that are kept, new names and the names of constructors and destructors
are not. With the receiver check on, a method whose first parameter does not mention its owner
is emitted as a function under its raw name. A rule that names an unknown type leaves a warning
and a function under its raw name.
-/

namespace BindingNames

structure Resolver where
  types : List TypeDecl
  table : RuleTable
  trimming : Trimming
  style : NameStyle
  receiverCheck : Bool
  deriving Repr, Inhabited

/-- The symbol of one declaration, the warning about it, and whether the receiver check made a
function of it. -/
structure Resolution where
  symbol : ResolvedSymbol
  warning : Option Warning
  demoted : Bool
  deriving DecidableEq, Repr, Inhabited

/-- What the role rule or its absence says about a declaration. -/
structure Placement where
  base : Text
  role : Role
  emit : Bool
  verbatim : Bool
  warning : Option Warning
  deriving DecidableEq, Repr, Inhabited

/-- What a name has to begin with to belong to a type. -/
def ownerBeginning (type : Text) : Text :=
  type ++ "_"

/-- Whether something is left of a name after the beginning that belongs to a type. -/
def belongsTo (name type : Text) : Bool :=
  (ownerBeginning type).length < name.length && Text.beginsWith name (ownerBeginning type)

/-- The name without its owner, if it belongs to the owner. -/
def stripOwner (name type : Text) : Text :=
  if belongsTo name type then name.drop (ownerBeginning type).length else name

def unknownTarget : Text := "UnknownRuleTarget"

def constructionName : Text := "Init"
def destructionName : Text := "Dispose"

namespace Resolver

def knows (r : Resolver) (type : Text) : Bool :=
  r.types.any (·.name == type)

/-- The longest of the names to which a name belongs, the first of equally long ones. -/
def longestOwner (name : Text) (best : Option Text) : List TypeDecl → Option Text
  | [] => best
  | t :: rest =>
    if belongsTo name t.name then
      match best with
      | none => longestOwner name (some t.name) rest
      | some b =>
        if b.length < t.name.length then longestOwner name (some t.name) rest
        else longestOwner name best rest
    else longestOwner name best rest

def inferOwner (r : Resolver) (name : Text) : Option Text :=
  longestOwner name none r.types

/-- The owner that the declaration comes with, or else the inferred one. -/
def ownerOf (r : Resolver) (d : FunctionDecl) : Option Text :=
  (d.candidateOwner.map (·.name)).or (r.inferOwner d.rawName)

/-- The name of a plain function without the beginnings to trim, unless nothing would be left. -/
def trim (r : Resolver) (name : Text) : Text :=
  let t := r.trimming.cut name
  if t.isEmpty then name else t

def unknownTargetWarning (name : Text) (rule : NamingRule) (target : Option Text) : Warning :=
  let shown :=
    match target with
    | some t => Text.quoted t
    | none => Scalar.null.shown
  ⟨unknownTarget, name,
    "rule '" ++ rule.toText ++ "' references unknown type " ++ shown ++
      ", falling back to function"⟩

def keptFunction (name : Text) (warning : Option Warning) : Placement :=
  ⟨name, .function, false, true, warning⟩

def strippedMethod (name owner : Text) : Placement :=
  ⟨stripOwner name owner, .method owner, false, false, none⟩

/-- The type that a rule makes a function a method of, known or not. -/
def targetOf (owner : Option Text) (rule : NamingRule) : Option Text :=
  match rule.directive with
  | .stripOwner => (nonempty? rule.target).or owner
  | _ => rule.target

def place (r : Resolver) (d : FunctionDecl) : Placement :=
  let name := d.rawName
  let owner := r.ownerOf d
  match r.table.roleRule name with
  | none =>
    match owner with
    | some o => strippedMethod name o
    | none => ⟨r.trim name, .function, false, false, none⟩
  | some rule =>
    if rule.directive = .keepFunction then keptFunction name none
    else
      let target := targetOf owner rule
      match target.filter r.knows with
      | none => keptFunction name (some (unknownTargetWarning name rule target))
      | some t =>
        if rule.directive = .keepMethod ∧ rule.force then ⟨name, .method t, true, true, none⟩
        else strippedMethod name t

/-- Whether the first parameter of a declaration rules out its placement as a method. -/
def lacksReceiver (d : FunctionDecl) (p : Placement) : Bool :=
  match p.role, d.parameters with
  | .method owner, first :: _ => !p.emit && !first.namesType owner
  | _, _ => false

def newName (r : Resolver) (key : Text) : Option Text :=
  (r.table.renameRule key).bind (·.newName)

def resolveFree (r : Resolver) (d : FunctionDecl) : Resolution :=
  let p := r.place d
  if r.receiverCheck && lacksReceiver d p then
    ⟨.initial d d.rawName p.role true, p.warning, true⟩
  else
    let styled := if p.verbatim then p.base else r.style.apply p.base
    let base := (r.newName d.rawName).getD styled
    ⟨.initial d base p.role p.emit, p.warning, false⟩

def memberName (r : Resolver) (d : FunctionDecl) : Text :=
  match d.memberKind with
  | some .construction => constructionName
  | some .destruction => destructionName
  | _ => r.style.apply d.rawName

def resolveMember (r : Resolver) (d : FunctionDecl) (owner : Text) : Resolution :=
  let base := (r.newName d.symbolName).getD (r.memberName d)
  ⟨.initial d base (.method owner) false, none, false⟩

def resolve (r : Resolver) (d : FunctionDecl) : Resolution :=
  match d.memberOf with
  | some owner => r.resolveMember d owner
  | none => r.resolveFree d

theorem resolve_decl (r : Resolver) (d : FunctionDecl) : (r.resolve d).symbol.decl = d := by
  cases h : d.memberOf with
  | none =>
    simp only [resolve, h, resolveFree]
    split <;> rfl
  | some owner => simp [resolve, h, resolveMember, ResolvedSymbol.initial]

theorem resolve_finalName (r : Resolver) (d : FunctionDecl) :
    (r.resolve d).symbol.finalName = (r.resolve d).symbol.baseName := by
  cases h : d.memberOf with
  | none =>
    simp only [resolve, h, resolveFree]
    split <;> rfl
  | some owner => simp [resolve, h, resolveMember, ResolvedSymbol.initial]

/-- Whether resolving a declaration looks at the beginnings to trim. -/
def trims (r : Resolver) (d : FunctionDecl) : Bool :=
  !d.isMember && (r.table.roleRule d.rawName).isNone && (r.ownerOf d).isNone

def fault? (r : Resolver) (d : FunctionDecl) : Option Failure :=
  if r.trims d then r.trimming.fault? d.rawName else none

def resolve? (r : Resolver) (d : FunctionDecl) : Except Failure Resolution :=
  match r.fault? d with
  | some e => .error e
  | none => .ok (r.resolve d)

theorem resolve?_of_wrong_eq_none {r : Resolver} (h : r.trimming.wrong = none)
    (d : FunctionDecl) : r.resolve? d = .ok (r.resolve d) := by
  have : r.fault? d = none := by
    simp only [fault?, Trimming.fault?_of_wrong_eq_none h]
    split <;> rfl
  simp [resolve?, this]

def resolveUpTo (r : Resolver) : List FunctionDecl → List Resolution × Option Failure
  | [] => ([], none)
  | d :: rest =>
    match r.resolve? d with
    | .error e => ([], some e)
    | .ok x =>
      let (xs, e) := resolveUpTo r rest
      (x :: xs, e)

/-- The first declaration whose symbol name occurred before, after the one it repeats. The
declarations already seen come latest first. -/
def findDuplicate (seen : List FunctionDecl) :
    List FunctionDecl → Option (FunctionDecl × FunctionDecl)
  | [] => none
  | d :: rest =>
    match seen.find? (·.symbolName == d.symbolName) with
    | some first => some (first, d)
    | none => findDuplicate (d :: seen) rest

def checkDuplicates (ds : List FunctionDecl) : Except Failure Unit :=
  match findDuplicate [] ds with
  | some (first, second) => throw (.duplicateSymbol first.symbolName first second)
  | none => return ()

def resolveAll (r : Resolver) (ds : List FunctionDecl) : Except Failure (List Resolution) :=
  do
    checkDuplicates ds
    match r.resolveUpTo ds with
    | (_, some e) => throw e
    | (xs, none) => return xs

end Resolver

namespace Resolution

def logger : Text := "symmap.resolver.resolver"

def log (x : Resolution) : List Entry :=
  let s := x.symbol
  let warned :=
    match x.warning with
    | some w => [⟨logger, Level.warning, w.rawName ++ ": " ++ w.message⟩]
    | none => []
  let demoted :=
    match x.demoted, s.role, s.decl.parameters with
    | true, .method owner, first :: _ =>
      [⟨logger, Level.debug,
        s.rawName ++ ": first parameter '" ++ first.toText ++ "' is not a " ++ owner ++
          " receiver, emitting as function"⟩]
    | _, _, _ => []
  let resolved := if s.decl.isMember then "Resolved member " else "Resolved "
  warned ++ demoted ++ [⟨logger, Level.debug, resolved ++ s.toText⟩]

end Resolution

/-- A resolver in use: the warnings about the declarations resolved since the last batch. -/
structure ResolverSession where
  resolver : Resolver
  warnings : List Warning
  deriving Repr, Inhabited

namespace ResolverSession

def start (r : Resolver) : ResolverSession :=
  ⟨r, []⟩

def resolve (s : ResolverSession) (d : FunctionDecl) :
    ResolverSession × Except Failure ResolvedSymbol :=
  match s.resolver.resolve? d with
  | .error e => (s, .error e)
  | .ok x => ({ s with warnings := s.warnings ++ x.warning.toList }, .ok x.symbol)

/-- Resolves a batch. The warnings of earlier declarations are dropped once the batch turns out
to be free of duplicates. -/
def resolveAll (s : ResolverSession) (ds : List FunctionDecl) :
    ResolverSession × Except Failure (List ResolvedSymbol) :=
  match Resolver.checkDuplicates ds with
  | .error e => (s, .error e)
  | .ok _ =>
    let (xs, fault) := s.resolver.resolveUpTo ds
    let s := { s with warnings := xs.filterMap (·.warning) }
    match fault with
    | some e => (s, .error e)
    | none => (s, .ok (xs.map (·.symbol)))

end ResolverSession

end BindingNames
