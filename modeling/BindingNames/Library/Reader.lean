import BindingNames.Disk
import BindingNames.Library.Exports
import BindingNames.Library.Flags
import BindingNames.Text.ShellWords

/-!
The exported symbols of the libraries that a setting names. The setting is text with linker
flags, in which a command in parentheses behind a dollar sign stands for its output. Which
commands there are and what they answer is part of the surroundings, and so is the tool that
lists symbols.
-/

namespace BindingNames.Library

structure Command where
  words : List Text
  output : Text
  complaint : Text
  code : Int
  deriving DecidableEq, Repr, Inhabited

/-- What surrounds a run: the platform, the commands, and whether symbols can be listed. -/
structure Surroundings where
  platform : Text
  commands : List Command
  canList : Bool
  deriving DecidableEq, Repr, Inhabited

namespace Surroundings

def command? (x : Surroundings) (words : List Text) : Option Command :=
  x.commands.find? (·.words == words)

end Surroundings

def logger : Text := "symmap.io.library_symbols"

def quotedWords (words : List Text) : Text :=
  Value.shown (.list (words.map Value.text))

def signals : List (Nat × String) :=
  [(1, "HUP"), (2, "INT"), (3, "QUIT"), (4, "ILL"), (5, "TRAP"), (6, "ABRT"), (7, "BUS"),
   (8, "FPE"), (9, "KILL"), (10, "USR1"), (11, "SEGV"), (12, "USR2"), (13, "PIPE"), (14, "ALRM"),
   (15, "TERM"), (16, "STKFLT"), (17, "CHLD"), (18, "CONT"), (19, "STOP"), (20, "TSTP"),
   (21, "TTIN"), (22, "TTOU"), (23, "URG"), (24, "XCPU"), (25, "XFSZ"), (26, "VTALRM"),
   (27, "PROF"), (28, "WINCH"), (29, "IO"), (30, "PWR"), (31, "SYS"), (34, "RTMIN"),
   (64, "RTMAX")]

/-- How a program ended that did not succeed; a negative code is that of a signal. -/
def endText (code : Int) : Text :=
  if 0 ≤ code then "returned non-zero exit status " ++ Text.ofInt code ++ "."
  else
    let number := Text.ofNat code.natAbs
    match signals.lookup code.natAbs with
    | some name => "died with <Signals.SIG" ++ Text.ofString name ++ ": " ++ number ++ ">."
    | none => "died with unknown signal " ++ number ++ "."

def failedText (c : Command) : Text :=
  "Command '" ++ quotedWords c.words ++ "' " ++ endText c.code

def commandOutput (x : Surroundings) (command : Text) : Except Failure Text := do
  let words ← (Text.shellWords command).mapError Failure.words
  match words with
  | [] => throw .emptyCommand
  | program :: _ =>
    match x.command? words with
    | none => throw (.expansion command (FileFault.missing program).message)
    | some c =>
      if c.code == 0 then return Text.trim c.output
      else throw (.expansion command (failedText c))

def substituted (x : Surroundings) : Nat → Text → Except Failure Text
  | 0, cs => return cs
  | fuel + 1, cs =>
    match cs with
    | .char '$' :: .char '(' :: rest =>
      let command := rest.takeWhile (· != Code.char ')')
      match rest.drop command.length with
      | [] => return cs
      | _ :: rest => do
        let output ← commandOutput x (Text.trim command)
        return output ++ (← substituted x fuel rest)
    | c :: rest => return c :: (← substituted x fuel rest)
    | [] => return []

def expand (x : Surroundings) (libs : Value) : Except Failure (List Text) := do
  let text ←
    if !libs.holds then pure []
    else
      match libs with
      | .scalar (.text s) => pure s
      | other => throw (.kind (.notMatchable other))
  let cs ← substituted x text.length text
  (Text.shellWords cs).mapError Failure.words

/-- The files of named libraries. A name without a file leaves a warning. -/
def named (present : Path → Except FileFault Bool) (directories : List Path) :
    List Text → Logged (List Path)
  | [] => return []
  | name :: rest => do
    match ← Logged.lift ((LinkFlags.find? present directories name).mapError Failure.file) with
    | some p => return p :: (← named present directories rest)
    | none =>
      Logged.tell logger Level.warning ("Library not found in -L paths, skipping: -l" ++ name)
      named present directories rest

/-- The library files that flags name: those given by path and those found. -/
def filesAmong (present : Path → Except FileFault Bool) (base : Path) (flags : List Text) :
    Logged (List Path) := do
  let x := LinkFlags.ofFlags base flags
  return x.files ++ (← named present x.directories x.names)

def files (d : Disk) (base : Path) (flags : List Text) : Logged (List Path) :=
  filesAmong d.has base flags

def listCommand (x : Surroundings) (library : Path) : List Text :=
  if x.platform == underscorePlatform then ["nm", "-gU", library.toText]
  else if library.suffix == ".so" then ["nm", "-D", "--defined-only", library.toText]
  else ["nm", "-g", "--defined-only", library.toText]

/-- The first of some texts that is not blank, trimmed. -/
def firstSaid : List Text → Text
  | [] => "unknown failure"
  | s :: rest => if (Text.trim s).isEmpty then firstSaid rest else Text.trim s

def exportsOf (x : Surroundings) (library : Path) : Logged (List Text) := do
  let words := listCommand x library
  match x.command? words with
  | none => Logged.fail (.file (.missing "nm"))
  | some c =>
    if c.code != 0 then Logged.fail (.lister words (firstSaid [c.complaint, c.output]))
    else
      let names := exports c.output
      Logged.tell logger Level.info
        (Text.ofNat names.length ++ " exported symbols in " ++ library.toText)
      return names.map (normalSymbol x.platform)

def exportsOfAll (x : Surroundings) : List Path → Logged (List Text)
  | [] => return []
  | p :: rest => do
    let names ← exportsOf x p
    return names ++ (← exportsOfAll x rest)

/-- The exported symbols of all libraries of a setting, in order. -/
def read (x : Surroundings) (d : Disk) (libs : Value) (base : Path) : Logged (List Text) := do
  let flags ← Logged.lift (expand x libs)
  let libraries ← files d base flags
  if libraries.isEmpty then Logged.fail (.noLibraries libs)
  else if !x.canList then Logged.fail .noLister
  else return sortedDistinct (← exportsOfAll x libraries)

end BindingNames.Library
