import BindingNames.Text.Blank
import BindingNames.Text.Case
import BindingNames.Text.Piece

/-!
Symbols that a library exports, as a listing of its symbols shows them. A line of the listing
ends with a code of one letter and a name. A capital code other than that for undefined symbols
marks an exported one, and so does the small letter for unique symbols. On some platforms names
carry an underscore in front that is not theirs.
-/

namespace BindingNames.Library

/-- The code of symbols that other libraries define. -/
def undefinedCode : Code := 'U'

/-- The code of symbols that exist once in a process. -/
def uniqueCode : Code := 'u'

def isExportCode : Text → Bool
  | [c] => c != undefinedCode && (Text.isCapital c || c == uniqueCode)
  | _ => false

/-- Whether a trimmed line heads the symbols of one part of an archive. -/
def isHeading (cs : Text) : Bool :=
  cs.getLast? == some (.char ':')

def exportOf (line : Text) : Option Text :=
  let cs := Text.trim line
  if isHeading cs then none
  else
    match (Text.words cs).reverse with
    | symbol :: code :: _ => if isExportCode code then some symbol else none
    | _ => none

def sortedDistinct (names : List Text) : List Text :=
  ((names.mergeSort fun a b => decide (a ≤ b)).foldr
    (fun s rest => if rest.head? = some s then rest else s :: rest) [])

def exports (listing : Text) : List Text :=
  sortedDistinct ((Text.lines listing).filterMap exportOf)

/-- The platform whose symbols carry an underscore in front. -/
def underscorePlatform : Text := "darwin"

def normalSymbol (platform name : Text) : Text :=
  if platform == underscorePlatform && Text.beginsWith name "_" then name.drop 1 else name

theorem isExportCode_undefined : isExportCode [undefinedCode] = false := rfl

end BindingNames.Library
