import BindingNames.Disk
import BindingNames.LogFormat

/-!
The output of a log. A setting gives the least level, a format and perhaps a file to which the
output is added as well. A format needs a field. An entry below the level is left out, and so is
one that the format cannot show.
-/

namespace BindingNames

namespace LogOutput

def usualFormat : Text := "%(asctime)s - %(name)s - %(levelname)s - %(message)s"

/-- Conversions that a field may ask for, in either case. Three letters beyond ASCII are cases of
some. -/
def conversions : Text :=
  "diouxefgcrsaDIOUXEFGCRSA%\u0130\u0131\u017f"

def dropCount : Text → Option Text
  | .char '*' :: cs => some cs
  | cs =>
    let digits := cs.takeWhile Text.isDecimal
    if digits.isEmpty then none else some (cs.drop digits.length)

/-- Whether a text goes on as a field does behind its name. -/
def endsField (cs : Text) : Bool :=
  let cs := cs.dropWhile FormatPart.isFlag
  let cs := (dropCount cs).getD cs
  let cs :=
    match cs with
    | .char '.' :: rest => (dropCount rest).getD cs
    | cs => cs
  (cs.head?).any conversions.contains

def beginsWithField : Text → Bool
  | .char '%' :: .char '(' :: cs =>
    let name := cs.takeWhile Text.isWordChar
    match cs.drop name.length with
    | .char ')' :: rest => !name.isEmpty && endsField rest
    | _ => false
  | _ => false

def hasField : Text → Bool
  | [] => false
  | c :: cs => beginsWithField (c :: cs) || hasField cs

structure Settings where
  level : Int
  format : List FormatPart
  file : Option Path
  deriving DecidableEq, Repr, Inhabited

def formatOf (text : Text) : Except Failure (List FormatPart) :=
  let text := if text.isEmpty then usualFormat else text
  if hasField text then return FormatPart.parse (text.length + 1) text
  else throw (.badFormat text)

def levelText (level : Value) : Except Failure Text :=
  match level with
  | .scalar (.text s) => return s
  | .scalar (.bytes b) => throw (.kind (.notName (.scalar (.bytes b))))
  | other => throw (.kind (.noOperation other "upper"))

def fileOf (file : Value) : Except Failure (Option Path) :=
  if !file.holds then return none
  else
    match file with
    | .scalar (.text s) => return some (.ofText s)
    | other => throw (.kind (.notPath other))

/-- Checks the settings and makes sure that the file is there. -/
def setUp (d : Disk) (level file : Value) (format : Text) : Except Failure (Settings × Disk) := do
  let level ← levelText level
  let format ← formatOf format
  let level ← Level.ofSetting level
  match ← fileOf file with
  | none => return (⟨level, format, none⟩, d)
  | some p =>
    let d ← (d.makeDirectories p.parent).mapError Failure.file
    let d ← (d.appendText p "").mapError Failure.file
    return (⟨level, format, some p⟩, d)

def admits (x : Settings) (e : Entry) : Bool :=
  0 < e.level && x.level ≤ e.level

def line? (x : Settings) (stamp : Text) (e : Entry) : Option Text :=
  (FormatPart.render? x.format stamp e).map (· ++ "\n")

def render (x : Settings) (stamp : Text) (entries : List Entry) : Text :=
  List.flatten ((entries.filter (admits x)).filterMap (line? x stamp))

/-- The output of some entries to a file, which has no place for halves of characters. -/
def renderFile (x : Settings) (stamp : Text) (entries : List Entry) : Text :=
  List.flatten (((entries.filter (admits x)).filterMap (line? x stamp)).filter
    Text.Encoding.utf8.covers)

/-- What is told besides the output when the file cannot take an entry. -/
def complaint (x : Settings) (stamp : Text) (entries : List Entry) : Text :=
  if x.file.isNone || Text.Encoding.utf8.covers (render x stamp entries) then ""
  else "--- Logging error ---"

def addToFile (x : Settings) (d : Disk) (stamp : Text) (entries : List Entry) :
    Except Failure Disk :=
  match x.file with
  | some p => (d.appendText p (renderFile x stamp entries)).mapError Failure.file
  | none => return d

end LogOutput

end BindingNames
