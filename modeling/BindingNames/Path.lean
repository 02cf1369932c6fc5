import BindingNames.Text.Piece

/-!
Paths as text. A path has a root, which is empty for a relative path, and parts in which
neither the empty part nor the single dot occurs. Two leading slashes are a root of their own,
and any other number of them is one. Two dots are kept as a part; only the normal form of a
path takes them away, without a look at any file.
-/

namespace BindingNames

structure Path where
  root : Text
  parts : List Text
  deriving DecidableEq, Repr, Inhabited

namespace Path

def rootOf : Text → Text
  | .char '/' :: .char '/' :: .char '/' :: _ => "/"
  | .char '/' :: .char '/' :: _ => "//"
  | .char '/' :: _ => "/"
  | _ => ""

def segments (s : Text) : List Text :=
  s.splitOn (.char '/')

def isPart (s : Text) : Bool :=
  s != "" && s != "."

def ofText (s : Text) : Path :=
  ⟨rootOf s, (segments s).filter isPart⟩

/-- The path as text; a path without root and parts is a dot. -/
def toText (p : Path) : Text :=
  let body := Text.joinWith "/" p.parts
  if p.root == "" && p.parts.isEmpty then "." else p.root ++ body

def isAbsolute (p : Path) : Bool :=
  p.root != ""

/-- The second path seen from the first; an absolute one stands for itself. -/
def join (p q : Path) : Path :=
  if q.isAbsolute then q else ⟨p.root, p.parts ++ q.parts⟩

def parent (p : Path) : Path :=
  ⟨p.root, p.parts.dropLast⟩

def name (p : Path) : Text :=
  p.parts.getLast?.getD ""

/-- The last part from its last dot on, unless the dot begins or ends the part. -/
def suffix (p : Path) : Text :=
  let cs := p.name
  let tail := (cs.reverse.takeWhile (· != Code.char '.')).reverse
  if tail.isEmpty || cs.length ≤ tail.length + 1 then ""
  else "." ++ tail

/-- Takes away two dots together with the part before them. What a root precedes cannot be left
upwards; a relative path keeps the dots that have nothing to take away. The parts already taken
come last first. -/
def climb (rooted : Bool) (taken : List Text) : List Text → List Text
  | [] => taken.reverse
  | s :: rest =>
    if s == ".." then
      match taken with
      | [] => if rooted then climb rooted [] rest else climb rooted [".."] rest
      | t :: ts =>
        if t == ".." then climb rooted (".." :: t :: ts) rest else climb rooted ts rest
    else climb rooted (s :: taken) rest

def normal (p : Path) : Path :=
  ⟨p.root, climb p.isAbsolute [] p.parts⟩

def normalText (s : Text) : Text :=
  (ofText s).normal.toText

def absolute (cwd p : Path) : Path :=
  (cwd.join p).normal

@[simp] theorem join_absolute (p q : Path) (h : q.isAbsolute) : p.join q = q := by
  simp [join, h]

theorem join_relative (p q : Path) (h : q.isAbsolute = false) :
    p.join q = ⟨p.root, p.parts ++ q.parts⟩ := by
  simp [join, h]

end Path

end BindingNames
