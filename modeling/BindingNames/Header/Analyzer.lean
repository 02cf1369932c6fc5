import BindingNames.Header.Parser
import BindingNames.Path

/-!
Analysis of headers. An analyzer knows the compiler arguments and keeps the units that it has
read, by the absolute paths of their files. A file is parsed when its unit is not kept yet or
when that is asked for; only a unit that the parser gives is kept. Text can be parsed too, and
its unit is never kept. Errors that the parser remarks on are logged.
-/

namespace BindingNames

structure NumberedUnit where
  number : Nat
  content : HeaderUnit
  deriving Repr, Inhabited

structure Analyzer where
  cwd : Path
  includePaths : List Value
  additionalArgs : List Value
  cplusplus : Bool
  kept : List (Text × NumberedUnit)
  requests : List ParseRequest
  deriving Repr, Inhabited

namespace Analyzer

def logger : Text := ParserPlaces.logger

def start (cwd : Path) (includePaths additionalArgs : List Value) (cplusplus : Bool) :
    Logged Analyzer := do
  Logged.tell logger Level.info
    ("ClangAnalyzer initialized with " ++ Text.ofNat includePaths.length ++ " include paths")
  return ⟨cwd, includePaths, additionalArgs, cplusplus, [], []⟩

def languageArguments (x : Analyzer) : List Text :=
  if x.cplusplus then ["-x", "c++", "-std=c++11"] else ["-x", "c"]

def arguments (x : Analyzer) : List Value :=
  x.languageArguments.map Value.text ++ x.includePaths.flatMap (fun p => [.text "-I", p]) ++
    x.additionalArgs

def absolutePath (x : Analyzer) (path : Text) : Text :=
  (Path.absolute x.cwd (.ofText path)).toText

def errorEntries (path : Text) (u : HeaderUnit) : List Entry :=
  (u.diagnostics.filter Diagnostic.isError).map fun d =>
    ⟨logger, Level.warning, "Parse error in " ++ path ++ ": " ++ d.text⟩

def fileRequest (x : Analyzer) (path : Text) : ParseRequest :=
  ⟨path, x.arguments, ParseRequest.skipBodies + ParseRequest.incomplete, []⟩

def textRequest (x : Analyzer) (source file : Text) : ParseRequest :=
  ⟨file, x.arguments, ParseRequest.skipBodies, [(file, source)]⟩

/-- Notes a request; its number is one more than those before it. -/
def noted (x : Analyzer) (r : ParseRequest) : Analyzer :=
  { x with requests := x.requests ++ [r] }

def keep (x : Analyzer) (path : Text) (u : NumberedUnit) : Analyzer :=
  { x with kept := (path, u) :: x.kept.filter (·.1 != path) }

def parseFile (parser : Parser) (x : Analyzer) (path : Text) : Analyzer × Logged NumberedUnit :=
  let r := x.fileRequest path
  let y := x.noted r
  match parser x.requests.length r with
  | .failed reason => (y, Logged.fail (.unitUnread path reason))
  | .nothing => (y, Logged.fail (.unitUnread path "returned None"))
  | .parsed u =>
    let n : NumberedUnit := ⟨y.requests.length, u⟩
    (y.keep path n, ⟨errorEntries path u, .ok n⟩)

def unitOf (parser : Parser) (x : Analyzer) (path : Text) (force : Bool) :
    Analyzer × Logged NumberedUnit :=
  let path := x.absolutePath path
  match x.kept.lookup path with
  | some u => if force then x.parseFile parser path else (x, pure u)
  | none => x.parseFile parser path

def unitOfText (parser : Parser) (x : Analyzer) (source file : Text) :
    Analyzer × Logged NumberedUnit :=
  let r := x.textRequest source file
  let y := x.noted r
  match parser x.requests.length r with
  | .failed reason => (y, Logged.fail (.sourceUnread reason))
  | .nothing => (y, Logged.fail (.kind (.noOperation .null "diagnostics")))
  | .parsed u => (y, ⟨errorEntries file u, .ok ⟨y.requests.length, u⟩⟩)

def usualFile : Text := "temp.h"

theorem unitOf_kept (parser : Parser) {x : Analyzer} {path : Text} {u : NumberedUnit}
    (h : x.kept.lookup (x.absolutePath path) = some u) :
    x.unitOf parser path false = (x, pure u) := by
  simp [unitOf, h]

end Analyzer

end BindingNames
