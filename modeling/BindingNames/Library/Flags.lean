import BindingNames.Failure
import BindingNames.Path

/-!
Linker flags and the library files they name. A flag gives a directory to search, the name of a
library or the path of a library file. Each named library is the first file found for it, going
through the directories in order and within a directory through the endings; the files given by
path come before all that are found.
-/

namespace BindingNames.Library

/-- What flags say: directories, names and paths, each in order. -/
structure LinkFlags where
  directories : List Path
  names : List Text
  files : List Path
  deriving DecidableEq, Repr, Inhabited

namespace LinkFlags

def none : LinkFlags := ⟨[], [], []⟩

def directoryMark : Text := "-L"

def nameMark : Text := "-l"

/-- The endings of library files, in the order in which they are tried. -/
def endings : List Text := [".so", ".dylib", ".a"]

def addFlag (base : Path) (flag : Text) (x : LinkFlags) : LinkFlags :=
  if Text.beginsWith flag directoryMark then
    { x with directories := base.join (.ofText (flag.drop 2)) :: x.directories }
  else if Text.beginsWith flag nameMark then { x with names := flag.drop 2 :: x.names }
  else if endings.any (Text.endsWith flag) then
    { x with files := base.join (.ofText flag) :: x.files }
  else x

def addDirectory (base : Path) (directory : Text) (x : LinkFlags) : LinkFlags :=
  { x with directories := base.join (.ofText directory) :: x.directories }

/-- What flags say, with relative paths seen from `base`. A directory may stand apart from its
mark. -/
def ofFlags (base : Path) : List Text → LinkFlags
  | [] => none
  | [flag] => addFlag base flag none
  | flag :: next :: rest =>
    if flag == directoryMark then addDirectory base next (ofFlags base rest)
    else addFlag base flag (ofFlags base (next :: rest))

/-- The paths that a library of a name may have, in the order in which they are tried. -/
def candidates (directories : List Path) (name : Text) : List Path :=
  directories.flatMap fun d => endings.map fun e => d.join (.ofText ("lib" ++ name ++ e))

def firstPresent (present : Path → Except FileFault Bool) :
    List Path → Except FileFault (Option Path)
  | [] => .ok .none
  | p :: rest =>
    match present p with
    | .error fault => .error fault
    | .ok true => .ok (some p)
    | .ok false => firstPresent present rest

def find? (present : Path → Except FileFault Bool) (directories : List Path) (name : Text) :
    Except FileFault (Option Path) :=
  firstPresent present (candidates directories name)

end LinkFlags

end BindingNames.Library
