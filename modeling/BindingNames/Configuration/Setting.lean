import BindingNames.Fields

/-!
The settings of a configuration. A setting has a key, and some have a second one. A setting that
is not given has a value for its absence; of several keys for one setting the last one counts,
and keys that denote no setting are ignored.
-/

namespace BindingNames

inductive Setting where
  | name
  | headers
  | includePaths
  | compilerArgs
  | cplusplus
  | parserPath
  | libs
  | trimPrefixes
  | symMap
  | rulesSource
  | rules
  | nameStyle
  | receiverCheck
  | output
  | report
  | logLevel
  | logFile
  | baseDir
  deriving DecidableEq, Repr, Inhabited

namespace Setting

/-- All settings, in the order in which they are saved. -/
def all : List Setting :=
  [.name, .headers, .includePaths, .compilerArgs, .cplusplus, .parserPath, .libs, .trimPrefixes,
   .symMap, .rulesSource, .rules, .nameStyle, .receiverCheck, .output, .report, .logLevel, .logFile,
   .baseDir]

/-- The settings that are saved. Where relative paths start depends on the place of the file. -/
def saved : List Setting := all.filter (· != .baseDir)

def key : Setting → Text
  | .name => "name"
  | .headers => "headers"
  | .includePaths => "include_paths"
  | .compilerArgs => "compiler_args"
  | .cplusplus => "cplusplus"
  | .parserPath => "libclang_path"
  | .libs => "libs"
  | .trimPrefixes => "trim_prefixes"
  | .symMap => "sym_map"
  | .rulesSource => "rules_source"
  | .rules => "rules"
  | .nameStyle => "name_style"
  | .receiverCheck => "receiver_check"
  | .output => "output"
  | .report => "report"
  | .logLevel => "log_level"
  | .logFile => "log_file"
  | .baseDir => "base_dir"

/-- The second key of a setting. -/
def alias? : Setting → Option Text
  | .headers => some "include"
  | .trimPrefixes => some "trimPrefixes"
  | .symMap => some "symMap"
  | .rulesSource => some "rulesSource"
  | .nameStyle => some "nameStyle"
  | .receiverCheck => some "receiverCheck"
  | .parserPath => some "libclangPath"
  | .logLevel => some "logLevel"
  | .logFile => some "logFile"
  | _ => none

def hasKey (s : Setting) (k : Text) : Bool :=
  s.key == k || s.alias? == some k

def ofKey? : Scalar → Option Setting
  | .text k => all.find? (·.hasKey k)
  | _ => none

def absent : Setting → Value
  | .name => .text ""
  | .headers => .list []
  | .includePaths => .list []
  | .compilerArgs => .list []
  | .cplusplus => .bool false
  | .parserPath => .null
  | .libs => .text ""
  | .trimPrefixes => .list []
  | .symMap => .map []
  | .rulesSource => .map []
  | .rules => .list []
  | .nameStyle => .text "none"
  | .receiverCheck => .bool false
  | .output => .text "llcppg.symb.json"
  | .report => .null
  | .logLevel => .text "INFO"
  | .logFile => .null
  | .baseDir => .text "."

def given? (s : Setting) (fields : Fields) : Option Value :=
  ((fields.filter fun f => ofKey? f.1 == some s).getLast?).map (·.2)

def ofFields (s : Setting) (fields : Fields) : Value :=
  (s.given? fields).getD s.absent

theorem mem_all (s : Setting) : s ∈ all := by
  cases s <;> decide

theorem ofKey?_key (s : Setting) : ofKey? (.text s.key) = some s := by
  cases s <;> decide +kernel

theorem ofKey?_alias {s : Setting} {k : Text} (h : s.alias? = some k) :
    ofKey? (.text k) = some s := by
  cases s <;> simp [alias?] at h <;> subst h <;> decide +kernel

end Setting

end BindingNames
