import BindingNames.Configuration.Setting
import BindingNames.Disk
import BindingNames.Document.Reading

/-!
Configurations and how they are read. Most settings keep the value they are given, whatever its
kind. Headers in one text are its words. Include paths and compiler arguments are lists; compiler
flags add to both, since a flag for an include path belongs to the paths. The symbol map is a
mapping. A configuration file sees relative paths from its own directory.
-/

namespace BindingNames

structure Configuration where
  name : Value
  headers : Value
  includePaths : List Value
  compilerArgs : List Value
  cplusplus : Value
  parserPath : Value
  libs : Value
  trimPrefixes : Value
  symMap : Fields
  rulesSource : Value
  rules : Value
  nameStyle : Value
  receiverCheck : Value
  output : Value
  report : Value
  logLevel : Value
  logFile : Value
  baseDir : Value
  deriving Repr, Inhabited

structure FlagSplit where
  includes : List Value
  others : List Value
  deriving Repr, Inhabited

namespace FlagSplit

def includeMark : Text := "-I"

def isIncludeMark (v : Value) : Bool :=
  v.asText? == some includeMark

def append (x y : FlagSplit) : FlagSplit :=
  ⟨x.includes ++ y.includes, x.others ++ y.others⟩

def ofFlag (flag : Value) : Except Failure FlagSplit :=
  match flag with
  | .scalar (.text s) =>
    if Text.beginsWith s includeMark then return ⟨[.text (s.drop 2)], []⟩
    else return ⟨[], [flag]⟩
  | .scalar (.bytes _) => throw (.kind .bytesBeginning)
  | other => throw (.kind (.noOperation other "startswith"))

/-- The parts of flags. An include path may stand apart from its mark. -/
def ofFlags : List Value → Except Failure FlagSplit
  | [] => return ⟨[], []⟩
  | [flag] => ofFlag flag
  | flag :: next :: rest =>
    if isIncludeMark flag then return append ⟨[next], []⟩ (← ofFlags rest)
    else do
      let first ← ofFlag flag
      return append first (← ofFlags (next :: rest))

end FlagSplit

namespace Configuration

/-- The members of a value; one that does not hold has none. -/
def membersOrNone (v : Value) : Except Failure (List Value) :=
  if !v.holds then return []
  else
    match v.members? with
    | some members => return members
    | none => throw (.kind (.notIterable v))

/-- The words of a text and the members of other values. -/
def flagsOf (v : Value) : Except Failure (List Value) :=
  match v with
  | .scalar (.text s) => return (Text.words s).map Value.text
  | v => membersOrNone v

/-- Headers in one text are parted. -/
def headersOf (v : Value) : Value :=
  match v with
  | .scalar (.text s) => .list ((Text.words s).map Value.text)
  | v => v

def flagsKey : Scalar := .text "cflags"

def splitOf (fields : Fields) : Except Failure FlagSplit :=
  match Value.get? flagsKey fields with
  | none => return ⟨[], []⟩
  | some v => do FlagSplit.ofFlags (← flagsOf v)

/-- The configuration that some fields give. Keys have to be such that they can be shown. -/
def ofFields (fields : Fields) : Except Failure Configuration := do
  if fields.any fun f => !f.1.isShown then throw .longNumber
  let includePaths ← membersOrNone (Setting.includePaths.ofFields fields)
  let compilerArgs ← membersOrNone (Setting.compilerArgs.ofFields fields)
  let split ← splitOf fields
  let symMap ← ((Setting.symMap.ofFields fields).toFieldsOrNone).mapError Failure.kind
  return {
    name := Setting.name.ofFields fields
    headers := headersOf (Setting.headers.ofFields fields)
    includePaths := includePaths ++ split.includes
    compilerArgs := compilerArgs ++ split.others
    cplusplus := Setting.cplusplus.ofFields fields
    parserPath := Setting.parserPath.ofFields fields
    libs := Setting.libs.ofFields fields
    trimPrefixes := Setting.trimPrefixes.ofFields fields
    symMap
    rulesSource := Setting.rulesSource.ofFields fields
    rules := Setting.rules.ofFields fields
    nameStyle := Setting.nameStyle.ofFields fields
    receiverCheck := Setting.receiverCheck.ofFields fields
    output := Setting.output.ofFields fields
    report := Setting.report.ofFields fields
    logLevel := Setting.logLevel.ofFields fields
    logFile := Setting.logFile.ofFields fields
    baseDir := Setting.baseDir.ofFields fields }

def ofFile (d : Disk) (path : Text) : Except Failure Configuration := do
  let p := Path.ofText path
  let text ← (d.readNamed path).mapError Failure.file
  let v ← (Document.read text).mapError Failure.document
  match if v.holds then v.bare else .map [] with
  | .map fields =>
    let c ← ofFields fields
    return { c with baseDir := .text (d.absolute p).parent.toText }
  | _ => throw (.configurationShape path)

def value (c : Configuration) : Setting → Value
  | .name => c.name
  | .headers => c.headers
  | .includePaths => .list c.includePaths
  | .compilerArgs => .list c.compilerArgs
  | .cplusplus => c.cplusplus
  | .parserPath => c.parserPath
  | .libs => c.libs
  | .trimPrefixes => c.trimPrefixes
  | .symMap => .map c.symMap
  | .rulesSource => c.rulesSource
  | .rules => c.rules
  | .nameStyle => c.nameStyle
  | .receiverCheck => c.receiverCheck
  | .output => c.output
  | .report => c.report
  | .logLevel => c.logLevel
  | .logFile => c.logFile
  | .baseDir => c.baseDir

def toFields (c : Configuration) : Fields :=
  Setting.saved.map fun s => (.text s.key, c.value s)

end Configuration

end BindingNames
