import BindingNames.Header.Cursor
import BindingNames.Log

/-!
The parser of C and C++ as it is seen from here: what it is asked and what it may answer, and
the library that it lives in. A request names a file, the compiler arguments and how much to
read. The library is found by itself, or where a setting says, or in one of a few usual places.
-/

namespace BindingNames

structure ParseRequest where
  path : Text
  arguments : List Value
  options : Nat
  unsaved : List (Text × Text)
  deriving Repr, Inhabited

namespace ParseRequest

/-- The option to accept a file that is not complete. -/
def incomplete : Nat := 2

/-- The option to leave out the bodies of functions. -/
def skipBodies : Nat := 64

end ParseRequest

/-- What the parser answers: a unit, nothing, or a failure with its reason. -/
inductive ParseOutcome where
  | parsed (u : HeaderUnit)
  | nothing
  | failed (reason : Text)
  deriving Repr, Inhabited

/-- A parser answers each request; the number of requests before it may matter. -/
abbrev Parser := Nat → ParseRequest → ParseOutcome

namespace Parser

def failureText : Text := "Error parsing translation unit."

/-- The parser that knows some files by their paths, the first of equal ones counting. -/
def ofUnits (units : List (Text × Option HeaderUnit)) : Parser := fun _ r =>
  match units.lookup r.path with
  | some (some u) => .parsed u
  | some none => .nothing
  | none => .failed failureText

end Parser

/-- Where the library of the parser can be found: why it is not found by itself, if it is not,
and the directories that hold one. -/
structure ParserPlaces where
  complaint : Option Text
  directories : List Text
  deriving DecidableEq, Repr, Inhabited

namespace ParserPlaces

def usual : List Text :=
  ["/usr/lib/llvm-18/lib", "/usr/lib/llvm-17/lib", "/usr/local/opt/llvm/lib",
   "C:\\Program Files\\LLVM\\bin"]

def logger : Text := "symmap.analyzer.clang_analyzer"

def choose (x : ParserPlaces) (setting : Value) : Logged Value :=
  if setting.holds then return setting
  else
    match x.complaint with
    | none => do
      Logged.tell logger Level.debug "libclang loaded successfully from pip package"
      return .null
    | some reason =>
      match usual.find? x.directories.contains with
      | some path => do
        Logged.tell logger Level.info ("Using libclang from: " ++ path)
        return .text path
      | none => Logged.fail (.noParser reason)

end ParserPlaces

end BindingNames
