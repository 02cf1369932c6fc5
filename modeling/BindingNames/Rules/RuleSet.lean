import BindingNames.Log
import BindingNames.Text.Blank

/-!
Sets of rules as sources produce them: drafts in order, and the symbols to ignore. Sets are
joined one after the other. A symbol map is the short form of a source: it gives each symbol
a new name, a method name after a dot, or a dash, which means that the symbol is ignored.
-/

namespace BindingNames

structure RuleSet where
  drafts : List RuleDraft
  ignored : List Scalar
  deriving Repr, Inhabited

namespace RuleSet

def empty : RuleSet := ⟨[], []⟩

def insertKey (key : Scalar) (keys : List Scalar) : List Scalar :=
  if keys.any (·.sameKey key) then keys else keys ++ [key]

def ignore (s : RuleSet) (key : Scalar) : RuleSet :=
  { s with ignored := insertKey key s.ignored }

def add (s : RuleSet) (drafts : List RuleDraft) : RuleSet :=
  { s with drafts := s.drafts ++ drafts }

def append (s t : RuleSet) : RuleSet :=
  ⟨s.drafts ++ t.drafts, t.ignored.foldl (fun keys k => insertKey k keys) s.ignored⟩

def ignores (s : RuleSet) (symbol : Text) : Bool :=
  s.ignored.any (·.sameKey (.text symbol))

@[simp] theorem append_empty (s : RuleSet) : s.append empty = s := by
  simp [append, empty]

def logger : Text := "symmap.io.rules_loader"

/-- What stands for "ignore this symbol" in a symbol map. -/
def ignoreMark : Text := "-"

/-- What begins the name of a method in a symbol map. -/
def methodMark : Code := '.'

/-- The target of a symbol without blanks around it; a value that does not hold is no target. -/
def targetText (v : Value) : Except Failure Text :=
  if !v.holds then return ""
  else
    match v with
    | .scalar (.text s) => return Text.trim s
    | .scalar (.bytes _) => throw (.kind .bytesBeginning)
    | other => throw (.kind (.noOperation other "strip"))

def mappedDrafts (symbol : Scalar) (target : Text) : List RuleDraft :=
  match target with
  | c :: cs =>
    if c == methodMark then
      let method := cs
      .stripOwner symbol .exact none ::
        if method.isEmpty then [] else [.rename symbol .exact (some method)]
    else
      .keepFunction symbol .exact ::
        if symbol = .text target then [] else [.rename symbol .exact (some target)]
  | [] => [.keepFunction symbol .exact]

def addMapped (s : RuleSet) (field : Scalar × Value) : Except Failure RuleSet := do
  let target ← targetText field.2
  if target == ignoreMark then return s.ignore field.1
  else return s.add (mappedDrafts field.1 target)

def ofFields (fields : Fields) : Except Failure RuleSet :=
  fields.foldlM addMapped empty

def ofSymbolMap (v : Value) : Logged RuleSet := do
  let fields : Fields ←
    if !v.holds then pure []
    else
      match v.bare with
      | .map fields => pure fields
      | other => Logged.fail (.kind (.noOperation other "items"))
  let s ← Logged.lift (ofFields fields)
  Logged.tell logger Level.debug
    ("symMap converted: " ++ Text.ofNat s.drafts.length ++ " rules, " ++
      Text.ofNat s.ignored.length ++ " ignored symbols")
  return s

def ignoredByText (s : RuleSet) : List Scalar :=
  s.ignored.mergeSort fun a b => decide (a.plain ≤ b.plain)

def unorderedPair? : List Scalar → Option (Scalar × Scalar)
  | a :: b :: rest => if (a.atMost? b).isNone then some (b, a) else unorderedPair? (b :: rest)
  | _ => none

/-- The ignored symbols in order. A mixture of kinds has no order. -/
def sortedIgnored (s : RuleSet) : Except Failure (List Scalar) :=
  match unorderedPair? s.ignored with
  | some (b, a) => throw (.kind (.unordered "<" (.scalar b) (.scalar a)))
  | none => return s.ignored.mergeSort fun a b => (a.atMost? b).getD true

end RuleSet

end BindingNames
