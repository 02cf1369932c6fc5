import BindingNames.Log

/-!
Progress of a run over a known number of symbols. Every so many steps, and at the last one, an
entry says how far the run is. The share is the quotient in floating point, taken a hundred
times and shown with one decimal place.
-/

namespace BindingNames

structure Progress where
  logger : Text
  total : Int
  interval : Nat
  current : Nat
  deriving DecidableEq, Repr, Inhabited

namespace Progress

/-- How many steps lie between two entries unless a setting says otherwise. -/
def usualInterval : Int := 100

/-- A run that has not begun. An interval below one counts as one. -/
def start (logger : Text) (total interval : Int) : Progress :=
  ⟨logger, total, (max interval 1).toNat, 0⟩

/-- The share of the run that is done, in hundredths. -/
def share (p : Progress) : Text :=
  ((Binary64.ofRatio false p.current p.total.toNat).times (.ofNat 100)).toOnePlace

def isDue (p : Progress) : Bool :=
  0 < p.total && (p.current % p.interval == 0 || (p.current : Int) == p.total)

def entry (p : Progress) (message : Option Text) : Entry :=
  let text :=
    "Resolved: " ++ Text.ofInt p.current ++ "/" ++ Text.ofInt p.total ++ " (" ++ p.share ++ "%)"
  let remark :=
    match message with
    | some s => if s.isEmpty then "" else " - " ++ s
    | none => ""
  ⟨p.logger, Level.info, text ++ remark⟩

def update (p : Progress) (message : Option Text) : Progress × List Entry :=
  let p := { p with current := p.current + 1 }
  (p, if p.isDue then [p.entry message] else [])

def repeated (p : Progress) : Nat → Progress × List Entry
  | 0 => (p, [])
  | n + 1 =>
    let (p, entries) := p.update none
    let (q, more) := repeated p n
    (q, entries ++ more)

def usualEnd : Text := "Resolution complete"

def complete (p : Progress) (message : Text) : Entry :=
  ⟨p.logger, Level.info, message ++ ": " ++ Text.ofInt p.total ++ " symbols processed"⟩

end Progress

end BindingNames
