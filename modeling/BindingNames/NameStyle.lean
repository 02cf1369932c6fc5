import BindingNames.Log
import BindingNames.Text.Digit

/-!
Styles of exported names. The camel style joins the parts of a name between underscores and
raises their first letters; the export style raises the first letter of the whole name. A name
that would not begin with a letter gets an X in front. Underscores around the name are kept by
both.
-/

namespace BindingNames

inductive NameStyle where
  | none
  | camel
  | exported
  deriving DecidableEq, Repr, Inhabited

namespace NameStyle

def name : NameStyle → Text
  | .none => "none"
  | .camel => "camel"
  | .exported => "export"

def all : List NameStyle := [.none, .camel, .exported]

def ofSetting (v : Value) : Except Failure NameStyle :=
  match v.asText?.bind fun s => all.find? (·.name == s) with
  | some style => .ok style
  | Option.none => .error (if v.isShown then .unknownStyle v else .longNumber)

def isUnderscore (c : Code) : Bool := c == '_'

def capitalized : Text → Text
  | [] => []
  | c :: cs => Text.upperOf c ++ cs

/-- The parts between underscores, joined, each with its first letter raised; the first part is
raised only on demand. -/
def joinParts (raiseFirst : Bool) (cs : Text) : Text :=
  match Text.pieces isUnderscore cs with
  | [] => []
  | w :: ws => (if raiseFirst then capitalized w else w) ++ ws.flatMap capitalized

def frontUnderscores (cs : Text) : Text :=
  cs.takeWhile isUnderscore

def backUnderscores (cs : Text) : Text :=
  cs.reverse.takeWhile isUnderscore

/-- A text without the underscores around it. -/
def core (cs : Text) : Text :=
  ((cs.dropWhile isUnderscore).reverse.dropWhile isUnderscore).reverse

def beginsWithDigit : Text → Bool
  | [] => false
  | c :: _ => Text.isDigit c

def camelName (cs : Text) : Text :=
  if cs.isEmpty then []
  else
    let base := core cs
    if base.isEmpty then 'X' :: cs
    else
      let front := frontUnderscores cs
      let back := backUnderscores cs
      if !front.isEmpty || beginsWithDigit base then
        .char 'X' :: front ++ joinParts false base ++ back
      else joinParts true base ++ back

def exportedName : Text → Text
  | [] => []
  | c :: cs => if c == '_' || Text.isDigit c then 'X' :: c :: cs else Text.upperOf c ++ cs

def apply (style : NameStyle) (s : Text) : Text :=
  match style with
  | .none => s
  | .camel => camelName s
  | .exported => exportedName s

@[simp] theorem apply_none (s : Text) : apply .none s = s := rfl

end NameStyle

end BindingNames
