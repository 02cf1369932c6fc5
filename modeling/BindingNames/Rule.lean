import BindingNames.Declaration
import BindingNames.Value

/-!
Naming rules. A rule applies to the function with one exact name, or to all whose names begin
with its pattern. Three of the four directives decide the role of a function and the fourth
gives it a new name. Rule sources produce drafts, whose pattern may be any scalar; a rule table
turns the drafts that are well formed into rules.
-/

namespace BindingNames

inductive Directive where
  | stripOwner
  | keepFunction
  | keepMethod
  | rename
  deriving DecidableEq, Repr, Inhabited

namespace Directive

def name : Directive → Text
  | .stripOwner => "strip_prefix"
  | .keepFunction => "keep_function"
  | .keepMethod => "keep_method"
  | .rename => "rename"

def all : List Directive := [.stripOwner, .keepFunction, .keepMethod, .rename]

def ofName? (s : Text) : Option Directive :=
  all.find? (·.name == s)

/-- Whether the directive decides if a function becomes a method. -/
def isRole : Directive → Bool
  | .rename => false
  | _ => true

end Directive

inductive MatchKind where
  | exact
  | leading
  deriving DecidableEq, Repr, Inhabited

def MatchKind.name : MatchKind → Text
  | .exact => "exact"
  | .leading => "prefix"

structure RuleBody where
  directive : Directive
  kind : MatchKind
  target : Option Text
  newName : Option Text
  force : Bool
  deriving DecidableEq, Repr, Inhabited

structure NamingRule extends RuleBody where
  pattern : Text
  deriving DecidableEq, Repr, Inhabited

/-- A rule as a source states it, before it is checked. -/
structure RuleDraft extends RuleBody where
  pattern : Scalar
  deriving DecidableEq, Repr, Inhabited

namespace RuleDraft

def stripOwner (pattern : Scalar) (kind : MatchKind) (target : Option Text) : RuleDraft :=
  ⟨⟨.stripOwner, kind, target, none, false⟩, pattern⟩

def keepFunction (pattern : Scalar) (kind : MatchKind) : RuleDraft :=
  ⟨⟨.keepFunction, kind, none, none, false⟩, pattern⟩

def keepMethod (pattern : Scalar) (kind : MatchKind) (target : Option Text) (force : Bool) :
    RuleDraft :=
  ⟨⟨.keepMethod, kind, target, none, force⟩, pattern⟩

def rename (pattern : Scalar) (kind : MatchKind) (newName : Option Text) : RuleDraft :=
  ⟨⟨.rename, kind, none, newName, false⟩, pattern⟩

end RuleDraft

namespace NamingRule

def applies (r : NamingRule) (name : Text) : Bool :=
  match r.kind with
  | .exact => name == r.pattern
  | .leading => Text.beginsWith name r.pattern

def toText (r : NamingRule) : Text :=
  let pattern :=
    match r.kind with
    | .exact => r.pattern
    | .leading => r.pattern ++ "*"
  let action := pattern ++ " -> " ++ r.directive.name
  match (nonempty? r.target).or (nonempty? r.newName) with
  | some detail => action ++ "(" ++ detail ++ ")"
  | none => action

end NamingRule

end BindingNames
