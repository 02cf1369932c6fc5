import BindingNames.Calendar

/-!
Days and moments as documents write them. A day is a year of four digits, a month and a day with
hyphens between them. A time may follow behind a letter or blanks, with colons, perhaps a fraction
of a second and a distance from universal time. A day that stands alone has two digits for the
month and the day, unless the document states what it is.
-/

namespace BindingNames.Document

/-- The distance from universal time, as digits: hours and perhaps minutes. -/
structure ZoneText where
  west : Bool
  hours : Text
  minutes : Text
  deriving DecidableEq, Repr, Inhabited

/-- A time of day, as digits. Without a distance the time is local. -/
structure TimeText where
  hour : Text
  minute : Text
  second : Text
  fraction : Text
  zone : Option ZoneText
  deriving DecidableEq, Repr, Inhabited

/-- A day or a moment, as digits. -/
structure MomentText where
  year : Text
  month : Text
  day : Text
  time : Option TimeText
  deriving DecidableEq, Repr, Inhabited

namespace MomentText

/-- At least `least` and at most `most` digits, and the rest. -/
def digits? (least most : Nat) (cs : Text) : Option (Text × Text) :=
  let ds := (cs.take most).takeWhile Code.isDigit
  if ds.length < least then none else some (ds, cs.drop ds.length)

def after? (c : Code) : Text → Option Text
  | d :: cs => if c = d then some cs else none
  | [] => none

def isGapChar (c : Code) : Bool := c == ' ' || c == '\t'

/-- The distance from universal time at the end of a text, or none if the text is at its end. -/
def zone? (cs : Text) : Option (Option ZoneText) :=
  match cs.dropWhile isGapChar with
  | [] => if cs.isEmpty then some none else none
  | [.char 'Z'] => some (some ⟨false, [], []⟩)
  | c :: ds =>
    if c != '-' && c != '+' then none
    else
      match digits? 1 2 ds with
      | some (hours, []) => some (some ⟨c == '-', hours, []⟩)
      | some (hours, .char ':' :: es) =>
        match digits? 2 2 es with
        | some (minutes, []) => some (some ⟨c == '-', hours, minutes⟩)
        | _ => none
      | _ => none

def time? (cs : Text) : Option TimeText := do
  let (hour, cs) ← digits? 1 2 cs
  let (minute, cs) ← digits? 2 2 (← after? ':' cs)
  let (second, cs) ← digits? 2 2 (← after? ':' cs)
  let (fraction, cs) :=
    match cs with
    | .char '.' :: cs => (cs.takeWhile Code.isDigit, cs.dropWhile Code.isDigit)
    | cs => ([], cs)
  return ⟨hour, minute, second, fraction, ← zone? cs⟩

def gap? : Text → Option Text
  | .char 't' :: cs => some cs
  | .char 'T' :: cs => some cs
  | c :: cs => if isGapChar c then some (cs.dropWhile isGapChar) else none
  | [] => none

def ofChars? (cs : Text) : Option MomentText := do
  let (year, cs) ← digits? 4 4 cs
  let (month, cs) ← digits? 1 2 (← after? '-' cs)
  let (day, cs) ← digits? 1 2 (← after? '-' cs)
  if cs.isEmpty then return ⟨year, month, day, none⟩
  else return ⟨year, month, day, some (← time? (← gap? cs))⟩

/-- Whether a text is taken for a day or moment because of how it looks. -/
def looksLike (cs : Text) : Bool :=
  match ofChars? cs with
  | some x => x.time.isSome || (x.month.length == 2 && x.day.length == 2)
  | none => false

def number (ds : Text) : Nat :=
  ds.foldl (fun n c => 10 * n + (c.toNat - 48)) 0

/-- The microseconds of a fraction, of which six digits count. -/
def microseconds (ds : Text) : Nat :=
  let ds := ds.take 6
  number ds * Nat.pow 10 (6 - ds.length)

def zoneMinutes (z : ZoneText) : Int :=
  let minutes : Int := number z.hours * 60 + number z.minutes
  if z.west then -minutes else minutes

def toDay (x : MomentText) : Except CalendarFault Day :=
  Day.ofNumbers (number x.year) (number x.month) (number x.day)

/-- The moment with a time. A distance that is out of range is met first. -/
def toMoment (x : MomentText) (t : TimeText) : Except CalendarFault Moment := do
  let zone ←
    match t.zone with
    | some z => do pure (some (← Moment.zoneOf (zoneMinutes z)))
    | none => pure none
  Moment.ofNumbers (← x.toDay) (number t.hour) (number t.minute) (number t.second)
    (microseconds t.fraction) zone

end MomentText

end BindingNames.Document
