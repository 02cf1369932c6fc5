import BindingNames.Rules.RuleSet

/-!
Rule entries: mappings that describe one rule each. The pattern and the directive have to be
there. Truth values may be written as numbers or words, and texts as the bytes of their usual code.
All the fields of an entry are examined, and every unfit one is reported, in the order of the
fields. An entry keeps of its fields those that its directive uses.
-/

namespace BindingNames

namespace RuleEntry

def trueWords : List Text := ["1", "on", "t", "true", "y", "yes"]

def falseWords : List Text := ["0", "off", "f", "false", "n", "no"]

/-- ASCII letters in lower case; the words for truth values have no others. -/
def lowerAscii (s : Text) : Text :=
  s.map Code.toLower

def truthOfWord (s : Text) : Except Unfit Bool :=
  let s := lowerAscii s
  if trueWords.contains s then .ok true
  else if falseWords.contains s then .ok false
  else .error .unreadableTruth

/-- The size from which on a whole number is too large to be examined. -/
def hugeSize : Int := (Nat.pow 2 63 : Nat)

/-- A truth value as a whole number. Zero and one are read; others are refused as unreadable
unless they are too large. -/
def truthOfInt (i : Int) : Except Unfit Bool :=
  if i = 0 then .ok false
  else if i = 1 then .ok true
  else if -hugeSize < i ∧ i < hugeSize then .error .unreadableTruth
  else .error .notTruth

/-- A truth value as an entry may write it. The least number of 64 bits is not too large as a whole
number, but is as a broken one. -/
def readTruth : Value → Except Unfit Bool
  | .scalar (.bool b) => .ok b
  | .scalar (.int i) => if i = -hugeSize then .error .unreadableTruth else truthOfInt i
  | .scalar (.float x) => (x.toInt?.map truthOfInt).getD (.error .notTruth)
  | .scalar (.text s) =>
    if Text.Encoding.utf8.covers s then truthOfWord s else .error .brokenText
  | .scalar (.bytes b) => ((Text.ofUtf8? b).map truthOfWord).getD (.error .unreadableTruth)
  | _ => .error .notTruth

def readText : Value → Except Unfit Text
  | .scalar (.text s) => .ok s
  | .scalar (.bytes b) => ((Text.ofUtf8? b).map .ok).getD (.error .brokenText)
  | _ => .error .notText

def readOptionalText : Value → Except Unfit (Option Text)
  | .scalar .null => .ok none
  | v => (readText v).map some

def readDirective (v : Value) : Except Unfit Directive :=
  match readText v with
  | .ok s =>
    if Text.Encoding.utf8.covers s then
      ((Directive.ofName? s).map .ok).getD (.error .unknownDirective)
    else .error .brokenText
  | .error _ => .error .unknownDirective

def required (fields : Fields) (name : Text) (read : Value → Except Unfit α) : Except Unfit α :=
  match Value.get? (.text name) fields with
  | some v => read v
  | none => .error .missing

def optional (fields : Fields) (name : Text) (absent : α) (read : Value → Except Unfit α) :
    Except Unfit α :=
  match Value.get? (.text name) fields with
  | some v => read v
  | none => .ok absent

def faultOf (name : Text) : Except Unfit α → List EntryFault
  | .ok _ => []
  | .error reason => [⟨some name, reason⟩]

def draft (pattern : Text) (leading : Bool) (directive : Directive) (target name : Option Text)
    (force : Bool) : RuleDraft :=
  let kind := if leading then MatchKind.leading else MatchKind.exact
  match directive with
  | .stripOwner => .stripOwner (.text pattern) kind target
  | .keepFunction => .keepFunction (.text pattern) kind
  | .keepMethod => .keepMethod (.text pattern) kind target force
  | .rename => .rename (.text pattern) kind name

def read (entry : Value) : Except (List EntryFault) RuleDraft :=
  match entry.bare with
  | .map fields =>
    let pattern := required fields "match" readText
    let leading := optional fields "prefix" false readTruth
    let directive := required fields "directive" readDirective
    let target := optional fields "target" none readOptionalText
    let name := optional fields "name" none readOptionalText
    let force := optional fields "force_function_output" false readTruth
    match pattern, leading, directive, target, name, force with
    | .ok pattern, .ok leading, .ok directive, .ok target, .ok name, .ok force =>
      .ok (draft pattern leading directive target name force)
    | _, _, _, _, _, _ =>
      .error (faultOf "match" pattern ++ faultOf "prefix" leading ++
        faultOf "directive" directive ++ faultOf "target" target ++ faultOf "name" name ++
        faultOf "force_function_output" force)
  | _ => .error [⟨none, .notMapping⟩]

def readAll (number : Nat) : List Value → Except Failure (List RuleDraft)
  | [] => .ok []
  | v :: rest =>
    match read v with
    | .error faults => .error (if v.isShown then .badEntry number v faults else .longNumber)
    | .ok d => (readAll (number + 1) rest).map (d :: ·)

end RuleEntry

def RuleSet.ofEntries (v : Value) : Except Failure RuleSet :=
  match v.members? with
  | none => throw (.kind (.notIterable v))
  | some members => return ⟨← RuleEntry.readAll 1 members, []⟩

end BindingNames
