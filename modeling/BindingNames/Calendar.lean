import BindingNames.Text.Piece

/-!
Days of the calendar and moments on them. A day has a year from one on, and a moment has a time of
day with microseconds and perhaps a distance from universal time, which is less than a day.
Numbers that make no day or moment are refused, and the first of them that is out of range tells
why. Two moments are the same if both have a distance and they are at the same universal time, or
if neither has one and they read the same.
-/

namespace BindingNames

structure Day where
  year : Nat
  month : Nat
  day : Nat
  deriving DecidableEq, Repr, Inhabited

/-- A moment; `zone` is the distance from universal time in minutes. -/
structure Moment where
  date : Day
  hour : Nat
  minute : Nat
  second : Nat
  microsecond : Nat
  zone : Option Int
  deriving DecidableEq, Repr, Inhabited

/-- Numbers that make no day or moment. -/
inductive CalendarFault where
  | year (n : Nat)
  | month
  | day
  | hour
  | minute
  | second
  | zone (minutes : Int)
  deriving DecidableEq, Repr

def paddedNat (width n : Nat) : Text :=
  let digits := Text.ofNat n
  Text.repeated (width - digits.length) '0' ++ digits

/-- A duration in minutes as messages quote it: whole days and the seconds of the last one. -/
def shownMinutes (minutes : Int) : Text :=
  let days := minutes / 1440
  let seconds := (minutes % 1440) * 60
  let parts : List Text :=
    (if days = 0 then [] else ["days=" ++ Text.ofInt days]) ++
      if seconds = 0 then [] else ["seconds=" ++ Text.ofInt seconds]
  let body : Text :=
    match parts with
    | [] => "0"
    | [p] => p
    | p :: q :: _ => p ++ ", " ++ q
  "datetime.timedelta(" ++ body ++ ")"

def CalendarFault.message : CalendarFault → Text
  | .year n => "year " ++ Text.ofNat n ++ " is out of range"
  | .month => "month must be in 1..12"
  | .day => "day is out of range for month"
  | .hour => "hour must be in 0..23"
  | .minute => "minute must be in 0..59"
  | .second => "second must be in 0..59"
  | .zone minutes =>
    "offset must be a timedelta strictly between -timedelta(hours=24) and timedelta(hours=24), " ++
      "not " ++ shownMinutes minutes ++ "."

namespace Day

def isLeapYear (year : Nat) : Bool :=
  year % 4 == 0 && (year % 100 != 0 || year % 400 == 0)

def monthLength (year month : Nat) : Nat :=
  match month with
  | 2 => if isLeapYear year then 29 else 28
  | 4 | 6 | 9 | 11 => 30
  | _ => 31

def ofNumbers (year month day : Nat) : Except CalendarFault Day :=
  if year < 1 || 9999 < year then throw (.year year)
  else if month < 1 || 12 < month then throw .month
  else if day < 1 || monthLength year month < day then throw .day
  else return ⟨year, month, day⟩

/-- How many days precede a day. -/
def number (d : Day) : Nat :=
  let years := d.year - 1
  let lengths := (List.range (d.month - 1)).map fun m => monthLength d.year (m + 1)
  let months := lengths.foldl (· + ·) 0
  365 * years + years / 4 - years / 100 + years / 400 + months + (d.day - 1)

def toText (d : Day) : Text :=
  paddedNat 4 d.year ++ "-" ++ paddedNat 2 d.month ++ "-" ++ paddedNat 2 d.day

def shown (d : Day) : Text :=
  "datetime.date(" ++ Text.joinWith ", " ([d.year, d.month, d.day].map Text.ofNat) ++ ")"

end Day

namespace Moment

/-- A distance from universal time, which has to be less than a day. -/
def zoneOf (minutes : Int) : Except CalendarFault Int :=
  if minutes.natAbs < 1440 then return minutes else throw (.zone minutes)

def ofNumbers (date : Day) (hour minute second microsecond : Nat) (zone : Option Int) :
    Except CalendarFault Moment :=
  if 23 < hour then throw .hour
  else if 59 < minute then throw .minute
  else if 59 < second then throw .second
  else return ⟨date, hour, minute, second, microsecond, zone⟩

/-- The microseconds that precede a moment where it is read. -/
def readTime (m : Moment) : Nat :=
  ((m.date.number * 24 + m.hour) * 60 + m.minute) * 60 * 1000000 + m.second * 1000000 +
    m.microsecond

/-- The microseconds that precede a moment at universal time, if its distance is known. -/
def universal? (m : Moment) : Option Int :=
  m.zone.map fun minutes => (m.readTime : Int) - minutes * 60 * 1000000

def isSame (m n : Moment) : Bool :=
  match m.universal?, n.universal? with
  | some a, some b => a == b
  | none, none => m.readTime == n.readTime
  | _, _ => false

theorem isSame_refl (m : Moment) : m.isSame m := by
  unfold isSame
  cases m.universal? <;> simp

def zoneText (minutes : Int) : Text :=
  (if minutes < 0 then "-" else "+" : Text) ++ paddedNat 2 (minutes.natAbs / 60) ++ ":" ++
    paddedNat 2 (minutes.natAbs % 60)

def toText (m : Moment) : Text :=
  m.date.toText ++ " " ++ paddedNat 2 m.hour ++ ":" ++ paddedNat 2 m.minute ++ ":" ++
    paddedNat 2 m.second ++
    (if m.microsecond = 0 then ([] : Text) else "." ++ paddedNat 6 m.microsecond) ++
    ((m.zone.map zoneText).getD "")

def shownZone (minutes : Int) : Text :=
  if minutes = 0 then "datetime.timezone.utc"
  else "datetime.timezone(" ++ shownMinutes minutes ++ ")"

/-- A moment as messages quote it: seconds and microseconds are left out while they are zero. -/
def shown (m : Moment) : Text :=
  let numbers := [m.date.year, m.date.month, m.date.day, m.hour, m.minute] ++
    (if m.second = 0 && m.microsecond = 0 then [] else [m.second]) ++
    if m.microsecond = 0 then [] else [m.microsecond]
  "datetime.datetime(" ++ Text.joinWith ", " (numbers.map Text.ofNat) ++
    ((m.zone.map fun z => ", tzinfo=" ++ shownZone z).getD "") ++ ")"

end Moment

end BindingNames
