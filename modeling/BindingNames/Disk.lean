import BindingNames.Log
import BindingNames.Workbook

/-!
A tree of files. A place on the disk is the list of names from the root to it, and holds a
directory, a text or a workbook. A path leads to a place only through directories, and two dots
lead back up, so a path may fail although its normal form does not. Names and paths are limited in
length, and a text that holds a zero character or half a character is no path. Reading leaves the
disk as it is; writing a file needs the directory around it.
-/

namespace BindingNames

abbrev Place := List Text

inductive Node where
  | directory
  | text (content : Text)
  | workbook (content : Workbook)
  deriving DecidableEq, Repr, Inhabited

structure Disk where
  cwd : Place
  nodes : List (Place × Node)
  deriving DecidableEq, Repr, Inhabited

namespace Disk

/-- What is at a place. The root is always a directory. -/
def node? (d : Disk) (place : Place) : Option Node :=
  if place.isEmpty then some .directory else d.nodes.lookup place

def putNode (place : Place) (node : Node) : List (Place × Node) → List (Place × Node)
  | [] => [(place, node)]
  | (p, n) :: rest =>
    if p == place then (place, node) :: rest else (p, n) :: putNode place node rest

def put (d : Disk) (place : Place) (node : Node) : Disk :=
  { d with nodes := putNode place node d.nodes }

theorem lookup_putNode_self (place : Place) (node : Node) (nodes : List (Place × Node)) :
    (putNode place node nodes).lookup place = some node := by
  induction nodes with
  | nil => simp [putNode]
  | cons p rest ih =>
    simp only [putNode]
    split
    · simp
    · rename_i h
      have h : (place == p.1) = false := by
        cases e : place == p.1 with
        | false => rfl
        | true => simp [eq_of_beq e] at h
      rw [List.lookup_cons, h]
      exact ih

/-- The sizes in bytes up to which names and paths are looked up. -/
def nameLimit : Nat := 255
def pathLimit : Nat := 4095

def pathFault? (text : Text) : Option FileFault :=
  if !Text.Encoding.fileName.covers text then some (.unwritable .fileName text)
  else if text.any (·.toNat == 0) then some .zeroByte
  else if pathLimit < Text.Encoding.nameSize text then some (.tooLong text)
  else none

/-- The place to which names lead from a directory, whether or not anything is there. -/
def walk (d : Disk) (text : Text) (place : Place) : List Text → Except FileFault Place
  | [] => .ok place
  | s :: rest =>
    match d.node? place with
    | none => .error (.missing text)
    | some .directory =>
      if nameLimit < Text.Encoding.nameSize s then .error (.tooLong text)
      else walk d text (if s == ".." then place.dropLast else place ++ [s]) rest
    | some _ => .error (.notDirectory text)

def locate (d : Disk) (p : Path) : Except FileFault Place :=
  match pathFault? p.toText with
  | some fault => .error fault
  | none => walk d p.toText (if p.isAbsolute then [] else d.cwd) p.parts

def find? (d : Disk) (p : Path) : Option Node :=
  match d.locate p with
  | .ok place => d.node? place
  | .error _ => none

/-- Whether there is anything where a path leads. A path with too long a name cannot even be asked
about. -/
def has (d : Disk) (p : Path) : Except FileFault Bool :=
  match d.locate p with
  | .ok place => .ok (d.node? place).isSome
  | .error (.tooLong text) => .error (.tooLong text)
  | .error _ => .ok false

def cwdPath (d : Disk) : Path := ⟨"/", d.cwd⟩

/-- The absolute normal form of a path, with a single slash at its root. -/
def absolute (d : Disk) (p : Path) : Path :=
  { Path.absolute d.cwdPath p with root := "/" }

def openFile (d : Disk) (p : Path) : Except FileFault Node := do
  let place ← d.locate p
  match d.node? place with
  | none => throw (.missing p.toText)
  | some .directory => throw (.isDirectory p.toText)
  | some node => return node

def readRaw (d : Disk) (p : Path) : Except FileFault Text := do
  match ← d.openFile p with
  | .text s => return s
  | _ => throw .undecodable

def readWorkbook (w : Workbook) : Except TableFault Workbook :=
  if w.isReadable then return w else throw .brokenWorkbook

/-- The text of a file with unified line ends. -/
def readText (d : Disk) (p : Path) : Except FileFault Text :=
  return (Text.unifyLineEnds (← d.readRaw p))

def namesDirectory (name : Text) : Bool :=
  match (Path.segments name).getLast? with
  | some last => !Path.isPart last || last == ".."
  | none => true

/-- The text of a file with unified line ends. The file is given by its name, which may not be
empty nor that of a directory. -/
def readNamed (d : Disk) (name : Text) : Except FileFault Text := do
  if name.isEmpty then throw (.missing name)
  let p := Path.ofText name
  if namesDirectory name then
    let _ ← d.openFile p
    throw (.notDirectory name)
  else d.readText p

/-- Puts a file where a path leads, unless a directory is there. -/
def writeFile (d : Disk) (p : Path) (node : Node) : Except FileFault Disk := do
  let place ← d.locate p
  match d.node? place with
  | some .directory => throw (.isDirectory p.toText)
  | some _ => return d.put place node
  | none =>
    match d.node? place.dropLast with
    | some .directory => return d.put place node
    | some _ => throw (.notDirectory p.toText)
    | none => throw (.missing p.toText)

/-- Makes the directories that are missing on the way along the names of a path, after those that
are behind already. Once a directory had to be made, each one is made by a path of its own. -/
def makeAlong (d : Disk) (p : Path) (made : Bool) (behind : List Text) (place : Place) :
    List Text → Except FileFault Disk
  | [] => .ok d
  | s :: rest =>
    let next := if s == ".." then place.dropLast else place ++ [s]
    let behind := behind ++ [s]
    if nameLimit < Text.Encoding.nameSize s then
      .error (.tooLong (if made then Path.toText { p with parts := behind } else p.toText))
    else
      match d.node? next with
      | some .directory => makeAlong d p made behind next rest
      | none => makeAlong (d.put next .directory) p true behind next rest
      | some _ => .error (if rest.isEmpty then .present p.toText else .notDirectory p.toText)

def makeDirectories (d : Disk) (p : Path) : Except FileFault Disk :=
  match pathFault? p.toText with
  | some fault => .error fault
  | none => makeAlong d p false [] (if p.isAbsolute then [] else d.cwd) p.parts

/-- Puts a file where a path leads, and the directories that are missing above it. -/
def placeFile (d : Disk) (p : Path) (node : Node) : Except FileFault Disk := do
  (← d.makeDirectories p.parent).writeFile p node

/-- Adds text to the end of a file, which need not exist before. -/
def appendText (d : Disk) (p : Path) (s : Text) : Except FileFault Disk := do
  let old :=
    match d.find? p with
    | some (.text t) => t
    | _ => ""
  d.writeFile p (.text (old ++ s))

def bare (cwd : Place) : Disk :=
  ⟨cwd, (List.range cwd.length).map fun i => (cwd.take (i + 1), .directory)⟩

/-- A disk with some more nodes below the working directory, and the directories above them. -/
def withNodes (d : Disk) (nodes : List (Path × Node)) : Except FileFault Disk :=
  nodes.foldlM (fun d (p, node) =>
    match node with
    | .directory => d.makeDirectories p
    | _ => d.placeFile p node) d

def filesBelow (d : Disk) : List (Text × Node) :=
  d.nodes.filterMap fun (place, node) =>
    if d.cwd.isPrefixOf place && node != .directory then
      some (Text.joinWith "/" (place.drop d.cwd.length), node)
    else none

theorem node?_put_self (d : Disk) (place : Place) (node : Node) (h : place ≠ []) :
    (d.put place node).node? place = some node := by
  have h : place.isEmpty = false := by simpa using h
  simp [node?, put, h, lookup_putNode_self]

end Disk

end BindingNames
