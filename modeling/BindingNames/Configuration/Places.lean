import BindingNames.Configuration.Reading
import BindingNames.NameStyle

/-!
The places that a configuration names. A relative path is seen from the base directory. A header
is looked for there first and then in the include paths in order. A check of a configuration
gives what is wrong with it: no headers, an unknown name style, headers that are not found and a
source of rules that is not there.
-/

namespace BindingNames.Configuration

def logger : Text := "symmap.config"

def pathOf (v : Value) : Except Failure Path :=
  match v with
  | .scalar (.text s) => return .ofText s
  | other => throw (.kind (.notPath other))

/-- A path as seen from the base directory. -/
def placed (c : Configuration) (v : Value) : Except Failure Path := do
  let p ← pathOf v
  if p.isAbsolute then return p else return (← pathOf c.baseDir).join p

def isThere (d : Disk) (p : Path) : Except Failure Bool :=
  (d.has p).mapError Failure.file

def findIncluded (d : Disk) (c : Configuration) (header : Value) :
    List Value → Except Failure (Option Path)
  | [] => return none
  | v :: rest => do
    let p := (← c.placed v).join (← pathOf header)
    if ← isThere d p then return some p else findIncluded d c header rest

def findHeader (d : Disk) (c : Configuration) (header : Value) : Except Failure (Option Path) := do
  let p ← c.placed header
  if ← isThere d p then return some p else findIncluded d c header c.includePaths

def headerList (c : Configuration) : Except Failure (List Value) :=
  match c.headers.members? with
  | some headers => return headers
  | none => throw (.kind (.notIterable c.headers))

def notFoundText (header : Value) : Text :=
  "Header not found: " ++ header.plain

def checkIncludes (d : Disk) (c : Configuration) : List Value → Logged Unit
  | [] => return ()
  | v :: rest => do
    let p ← Logged.lift (c.placed v)
    if !(← Logged.lift (isThere d p)) then
      Logged.tell logger Level.warning ("Include path does not exist: " ++ v.plain)
    checkIncludes d c rest

def headerComplaints (d : Disk) (c : Configuration) : List Value → Except Failure (List Text)
  | [] => return []
  | v :: rest => do
    let found ← findHeader d c v
    let others ← headerComplaints d c rest
    return if found.isSome then others else notFoundText v :: others

/-- The path of the source of rules, as the setting has it. -/
def rulesPath (c : Configuration) : Except Failure Value :=
  if !c.rulesSource.holds then return .null
  else
    match c.rulesSource.bare with
    | .map fields => return (Value.get? (.text "path") fields).getD .null
    | other => throw (.kind (.noOperation other "get"))

def rulesComplaints (d : Disk) (c : Configuration) : Except Failure (List Text) := do
  let path ← c.rulesPath
  if !path.holds then return []
  else if ← isThere d (← c.placed path) then return []
  else return ["Rules source not found: " ++ path.plain]

def styleComplaints (c : Configuration) : Except Failure (List Text) :=
  match NameStyle.ofSetting c.nameStyle with
  | .ok _ => return []
  | .error (.unknownStyle style) =>
    let names := Text.joinWith ", " (NameStyle.all.map NameStyle.name)
    return ["name_style must be one of " ++ names ++ ": " ++ style.plain]
  | .error e => throw e

/-- What is wrong with the configuration. -/
def validate (d : Disk) (c : Configuration) : Logged (List Text) := do
  let styles ← Logged.lift c.styleComplaints
  checkIncludes d c c.includePaths
  let headers ← Logged.lift c.headerList
  let missing ← Logged.lift (headerComplaints d c headers)
  let rules ← Logged.lift (c.rulesComplaints d)
  let headersComplaints : List Text :=
    if c.headers.holds then [] else ["headers (include) is required"]
  return headersComplaints ++ styles ++ missing ++ rules

/-- The absolute paths of some headers. Those that are not found leave a warning. -/
def filesOf (d : Disk) (c : Configuration) : List Value → Logged (List Path)
  | [] => return []
  | v :: rest => do
    match ← Logged.lift (c.findHeader d v) with
    | some p => return d.absolute p :: (← filesOf d c rest)
    | none =>
      Logged.tell logger Level.warning (notFoundText v)
      filesOf d c rest

def headerFiles (d : Disk) (c : Configuration) : Logged (List Path) := do
  let paths ← filesOf d c (← Logged.lift c.headerList)
  Logged.tell logger Level.debug ("Found " ++ Text.ofNat paths.length ++ " header files")
  return paths

def includeDirectories (c : Configuration) : Except Failure (List Path) :=
  c.includePaths.mapM c.placed

/-- The source of rules with its path as seen from the base directory. -/
def placedSource (c : Configuration) : Except Failure Fields := do
  if !c.rulesSource.holds then return []
  else
    let fields ← c.rulesSource.toFields.mapError Failure.kind
    match Value.get? (.text "path") fields with
    | none => return fields
    | some path =>
      if path.holds then return Value.put (.text "path") (.text (← c.placed path).toText) fields
      else return fields

end BindingNames.Configuration
