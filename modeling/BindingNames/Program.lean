import BindingNames.Arguments
import BindingNames.Configuration.Saving
import BindingNames.LogOutput
import BindingNames.Run

/-!
The program. It reads the configuration that the arguments name, sets up the log, and saves the
configuration or checks it and runs. Failures of the mapping are logged and give an exit code;
what goes wrong while the log is set up or the configuration is saved or checked is not caught. The
file of the log grows as the program goes, so it keeps its place among the files that are written.
-/

namespace BindingNames

/-- How the program ends: by its arguments, by a complaint about the configuration file, by a
failure that is not caught, or with a log and an exit code. -/
inductive ProgramEnd where
  | exit (code : Nat)
  | complaint (text : Text)
  | crash (failure : Failure)
  | logged (code : Nat) (settings : LogOutput.Settings) (entries : List Entry)
  deriving Repr

namespace Program

def logger : Text := "symmap.main"

def errorEntry (text : Text) : Entry :=
  ⟨logger, Level.error, text⟩

def failureEntry (e : Failure) : Entry :=
  errorEntry ((if e.isForeseen then "Symbol mapping failed: " else "Fatal error: ") ++ e.message)

/-- Adds entries to the file of the log, if it can be written. -/
def note (t : Tools) (settings : LogOutput.Settings) (d : Disk) (entries : List Entry) : Disk :=
  match LogOutput.addToFile settings d t.stamp entries with
  | .ok d => d
  | .error _ => d

def save (t : Tools) (d : Disk) (c : Configuration) (settings : LogOutput.Settings)
    (path : Text) : Disk × ProgramEnd :=
  let (d, saved) := c.save d path
  match saved.result with
  | .error e => (d, .crash e)
  | .ok () => (note t settings d saved.log, .logged 0 settings saved.log)

def map (t : Tools) (d : Disk) (c : Configuration) (settings : LogOutput.Settings)
    (x : Arguments) : Disk × Nat × List Entry :=
  let m := Mapper.start d c
  match m.result with
  | .error e =>
    let entries := m.log ++ [failureEntry e]
    (note t settings d entries, 1, entries)
  | .ok mapper =>
    let (s, done) := mapper.run t (note t settings) (note t settings d m.log) x.output x.report
    let (code, last) :=
      match done.result with
      | .error e => (1, [failureEntry e])
      | .ok () => (0, [])
    (note t settings s.disk (done.log.drop s.noted ++ last), code, m.log ++ done.log ++ last)

def checkAndMap (t : Tools) (d : Disk) (c : Configuration) (settings : LogOutput.Settings)
    (x : Arguments) : Disk × ProgramEnd :=
  let checked := c.validate d
  match checked.result with
  | .error e => (d, .crash e)
  | .ok [] =>
    let (d, code, entries) := map t (note t settings d checked.log) c settings x
    (d, .logged code settings (checked.log ++ entries))
  | .ok complaints =>
    let entries := checked.log ++ complaints.map fun s => errorEntry ("Configuration error: " ++ s)
    (note t settings d entries, .logged 1 settings entries)

def withLog (t : Tools) (d : Disk) (c : Configuration) (settings : LogOutput.Settings)
    (x : Arguments) : Disk × ProgramEnd :=
  match nonempty? x.dumpConfig with
  | some path => save t d c settings path
  | none => checkAndMap t d c settings x

def withConfiguration (t : Tools) (d : Disk) (c : Configuration) (x : Arguments) :
    Disk × ProgramEnd :=
  let c := if x.verbose then { c with logLevel := .text "DEBUG" } else c
  match LogOutput.setUp d c.logLevel c.logFile "" with
  | .error e => (d, .crash e)
  | .ok (settings, d) => withLog t d c settings x

def missingText (path : Text) : Text :=
  "Error: 設定ファイルが見つかりません: " ++ path

def unreadableText (e : Failure) : Text :=
  "Error: 設定ファイルを読み込めません: " ++ e.message

def withConfigurationFile (t : Tools) (d : Disk) (name : Text) (x : Arguments) :
    Disk × ProgramEnd :=
  let p := Path.ofText name
  match d.has p with
  | .error fault => (d, .crash (.file fault))
  | .ok false => (d, .complaint (missingText name))
  | .ok true =>
    match Configuration.ofFile d p.toText with
    | .error e => (d, .complaint (unreadableText e))
    | .ok c => withConfiguration t d c x

def withArguments (t : Tools) (d : Disk) (x : Arguments) : Disk × ProgramEnd :=
  match x.config with
  | none => (d, .crash (.kind (.notPath (.list []))))
  | some name => withConfigurationFile t d name x

def run (t : Tools) (d : Disk) (words : List Text) : Disk × ProgramEnd :=
  match Arguments.parse words with
  | .exit code => (d, .exit code)
  | .run x => withArguments t d x

end Program

end BindingNames
