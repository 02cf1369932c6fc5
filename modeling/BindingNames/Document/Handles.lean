import BindingNames.Document.Scalars
import BindingNames.Text.Numeral

/-!
The written forms of tags and directives. A tag is a name between angle brackets, or the rest of a
name behind a handle that stands for its beginning, or a single mark. A directive gives the version
of the document or what a handle stands for; others say nothing.
-/

namespace BindingNames.Document

/-- A tag as it is written. Without a handle the rest is the whole name. -/
structure TagText where
  handle : Option Text
  rest : Text
  deriving DecidableEq, Repr, Inhabited

inductive Preamble where
  | version (major : Nat)
  | handle (handle beginning : Text)
  | unknown
  deriving DecidableEq, Repr, Inhabited

namespace Handles

def isNamePart (c : Code) : Bool :=
  c.isAlphanum || Text.contains "-;/?:@&=+$,_.!~*'()[]%" c

/-- Whether a tag or directive ends here. -/
def isEnd (c : Code) : Bool :=
  c == ' ' || isBreakOrEnd c

/-- The bytes that follow as escapes of two digits, and the place after them. -/
def escapedBytes (what : Text) : Nat → Spot → Except DocumentFault (List UInt8 × Spot)
  | 0, s => return ([], s)
  | fuel + 1, s => do
    if s.head != '%' then return ([], s)
    else
      let ds := s.next.rest.take 2
      if ds.length == 2 && ds.all Scalars.isHexDigit then
        let (bs, t) ← escapedBytes what fuel (s.forward 3)
        return (UInt8.ofNat (Scalars.hexValue ds) :: bs, t)
      else throw (scanFault s.next ("while scanning a " ++ what))

/-- The rest of a name, in which characters may be escaped by their bytes. -/
def nameRest (what : Text) : Nat → Spot → Except DocumentFault (Text × Spot)
  | 0, s => return ([], s)
  | fuel + 1, s => do
    let cs := s.run fun c => isNamePart c && c != '%'
    let s := s.forward cs.length
    if s.head != '%' then return (cs, s)
    else
      let (bs, t) ← escapedBytes what fuel s
      match Text.ofUtf8? bs with
      | some text =>
        let (more, t) ← nameRest what fuel t
        return (cs ++ text ++ more, t)
      | none => throw (scanFault s ("while scanning a " ++ what))

def name (what : Text) (s : Spot) : Except DocumentFault (Text × Spot) := do
  if !isNamePart s.head then throw (scanFault s ("while parsing a " ++ what))
  else
    let (cs, s) ← nameRest what (s.rest.length + 1) s
    return (cs, s)

/-- A handle: a mark, perhaps with a word and another mark behind it. -/
def handle (what : Text) (s : Spot) : Except DocumentFault (Text × Spot) :=
  let bad (s : Spot) := scanFault s ("while scanning a " ++ what)
  if s.head != '!' then throw (bad s)
  else if s.peek 1 == ' ' then return ("!", s.next)
  else
    let word := s.next.run Scalars.isNameChar
    let t := s.forward (word.length + 1)
    if t.head != '!' then throw (bad t)
    else return ("!" ++ word ++ "!", t.next)

/-- Whether a second mark follows before a gap, so that a handle stands here. -/
def hasHandle (s : Spot) : Bool :=
  (s.next.rest.takeWhile fun c => !isEnd c).contains '!'

/-- A tag, from the place of its mark. -/
def tag (s : Spot) : Except DocumentFault (TagText × Spot) := do
  let (t, after) ←
    if s.peek 1 == '<' then do
      let (rest, s) ← name "tag" (s.forward 2)
      if s.head != '>' then throw (scanFault s "while parsing a tag")
      pure (TagText.mk none rest, s.next)
    else if isGap (s.peek 1) then pure (TagText.mk none "!", s.next)
    else do
      let (handle, s) ← if hasHandle s then handle "tag" s else pure ("!", s.next)
      let (rest, s) ← name "tag" s
      pure (TagText.mk (some handle) rest, s)
  if isEnd after.head then return (t, after)
  else throw (scanFault after "while scanning a tag")

def directiveFault (s : Spot) : DocumentFault :=
  scanFault s "while scanning a directive"

def skipSpaces (s : Spot) : Spot :=
  s.skip (· == Code.char ' ')

def number (s : Spot) : Except DocumentFault (Nat × Spot) :=
  let ds := s.run Code.isDigit
  if ds.isEmpty then throw (directiveFault s)
  else if Text.Numeral.mostDigits < ds.length then
    throw ⟨.converting, Text.Numeral.tooLongText ds.length, s.index⟩
  else return (ds.foldl (fun n c => 10 * n + (c.toNat - 48)) 0, s.forward ds.length)

def version (s : Spot) : Except DocumentFault (Preamble × Spot) := do
  let (major, s) ← number (skipSpaces s)
  if s.head != '.' then throw (directiveFault s)
  let (_, s) ← number s.next
  if isEnd s.head then return (.version major, s) else throw (directiveFault s)

def meaning (s : Spot) : Except DocumentFault (Preamble × Spot) := do
  let (handle, s) ← handle "directive" (skipSpaces s)
  if s.head != ' ' then throw (directiveFault s)
  let (beginning, s) ← name "directive" (skipSpaces s)
  if isEnd s.head then return (.handle handle beginning, s) else throw (directiveFault s)

/-- What a directive body, from the place of its sign. -/
def preamble (s : Spot) : Except DocumentFault (Preamble × Spot) := do
  let word := s.next.run Scalars.isNameChar
  let s := s.forward (word.length + 1)
  if word.isEmpty || !isEnd s.head then throw (directiveFault s)
  let (p, s) ←
    match word with
    | "YAML" => version s
    | "TAG" => meaning s
    | _ => pure (Preamble.unknown, s.skip (!isBreakOrEnd ·))
  let s := s.skipComment
  if isBreakOrEnd s.head then return (p, s.takeBreak.2) else throw (directiveFault s)

end Handles

end BindingNames.Document
