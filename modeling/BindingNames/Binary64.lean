import BindingNames.Text.Code

/-!
Binary floating-point numbers of 64 bits, in exact integer arithmetic. A finite number is a
significand times a power of two counted from the smallest positive number. A quotient is
rounded to the nearest number, an exact tie to the even significand. A number is written with
the fewest decimal digits that read back to it, and with fixed places by rounding its exact
value.
-/

namespace BindingNames

/-- A finite number stands for `significand * 2 ^ unit / 2 ^ 1074`, with its sign. -/
inductive Binary64 where
  | finite (negative : Bool) (significand unit : Nat)
  | infinite (negative : Bool)
  | nan
  deriving DecidableEq, Repr, Inhabited

namespace Binary64

def scale : Nat := Nat.pow 2 1074

def zero : Binary64 := .finite false 0 0

/-- The quotient rounded to the nearest natural number, a tie to the even one. -/
def nearest (num den : Nat) : Nat :=
  let q := num / den
  let r := num % den
  if 2 * r < den then q
  else if 2 * r > den then q + 1
  else if q % 2 == 0 then q
  else q + 1

def maxUnit : Nat := 2045

def ofRatio (negative : Bool) (num den : Nat) : Binary64 :=
  let scaled := num * scale
  let bits := Nat.log2 (scaled / den)
  let unit := bits - 52
  let s := nearest scaled (den * Nat.pow 2 unit)
  let (s, unit) := if s == Nat.pow 2 53 then (Nat.pow 2 52, unit + 1) else (s, unit)
  if maxUnit < unit then .infinite negative else .finite negative s unit

def countDigits (n : Nat) : Nat :=
  (Nat.toDigits 10 n).length

/-- Bounds of the place of the first digit, beyond which a decimal is too large or too small for
any number but infinity or zero. -/
def largestPlace : Int := 310
def smallestPlace : Int := -330

def ofDecimal (negative : Bool) (digits : Nat) (exponent : Int) : Binary64 :=
  let place := exponent + countDigits digits
  if digits = 0 ∨ place < smallestPlace then .finite negative 0 0
  else if largestPlace < place then .infinite negative
  else
    match exponent with
    | .ofNat e => ofRatio negative (digits * Nat.pow 10 e) 1
    | .negSucc e => ofRatio negative digits (Nat.pow 10 (e + 1))

def ofNat (n : Nat) : Binary64 :=
  ofRatio false n 1

def ofInt (i : Int) : Binary64 :=
  ofRatio (i < 0) i.natAbs 1

def magnitude : Binary64 → Nat
  | .finite _ s u => s * Nat.pow 2 u
  | _ => 0

def isNegative : Binary64 → Bool
  | .finite b _ _ => b
  | .infinite b => b
  | .nan => false

def isZero : Binary64 → Bool
  | .finite _ s _ => s == 0
  | _ => false

def toInt? : Binary64 → Option Int
  | .finite b s u =>
    let m := s * Nat.pow 2 u
    if m % scale == 0 then some (if b then -(m / scale : Nat) else (m / scale : Nat)) else none
  | _ => none

def negated : Binary64 → Binary64
  | .finite b s u => .finite (!b) s u
  | .infinite b => .infinite (!b)
  | .nan => .nan

/-- The value of a finite number, counted in smallest positive numbers. -/
def signed (x : Binary64) : Int :=
  if x.isNegative then -(x.magnitude : Int) else x.magnitude

def isLess (x y : Binary64) : Bool :=
  match x, y with
  | .nan, _ => false
  | _, .nan => false
  | .infinite a, y => a && y != .infinite true
  | x, .infinite b => !b && x != .infinite false
  | x, y => x.signed < y.signed

/-- Whether a number is less than a natural number, or is none. -/
def isBelow (x : Binary64) (n : Nat) : Bool :=
  match x with
  | .nan => true
  | .infinite b => b
  | x => x.signed < n * scale

def times (x y : Binary64) : Binary64 :=
  match x, y with
  | .nan, _ => .nan
  | _, .nan => .nan
  | .infinite a, y => if y.isZero then .nan else .infinite (a != y.isNegative)
  | x, .infinite b => if x.isZero then .nan else .infinite (x.isNegative != b)
  | x, y => ofRatio (x.isNegative != y.isNegative) (x.magnitude * y.magnitude) (scale * scale)

def plus (x y : Binary64) : Binary64 :=
  match x, y with
  | .nan, _ => .nan
  | _, .nan => .nan
  | .infinite a, .infinite b => if a == b then .infinite a else .nan
  | .infinite a, _ => .infinite a
  | _, .infinite b => .infinite b
  | x, y =>
    let sum := x.signed + y.signed
    ofRatio (sum < 0 || (sum == 0 && x.isNegative && y.isNegative)) sum.natAbs scale

def decimalExponent (num den : Nat) : Int :=
  if den ≤ num then countDigits (num / den) - 1
  else -(countDigits ((den + num - 1) / num - 1) : Int)

/-- The nearest decimal of `places` digits to the magnitude of a number that is finite and not
zero: the digits and the exponent of the last one. -/
def significant (x : Binary64) (places : Nat) : Nat × Int :=
  let last : Int := decimalExponent x.magnitude scale - (places - 1 : Nat)
  let digits :=
    match last with
    | .ofNat e => nearest x.magnitude (scale * Nat.pow 10 e)
    | .negSucc e => nearest (x.magnitude * Nat.pow 10 (e + 1)) scale
  if digits = Nat.pow 10 places then (Nat.pow 10 (places - 1), last + 1) else (digits, last)

/-- The number that the nearest decimal of `places` digits stands for. -/
def rounded (x : Binary64) (places : Nat) : Binary64 :=
  match x with
  | .finite b s u =>
    if s = 0 then x
    else
      let (digits, last) := significant (.finite b s u) places
      ofDecimal b digits last
  | x => x

/-- Nearest decimal of `places` digits on each side of a quotient that reads back to `x`: the
digits and the exponent of the last one. -/
def candidate (x : Binary64) (num den : Nat) (places : Nat) : Option (Nat × Int) :=
  let last : Int := decimalExponent num den - (places - 1 : Nat)
  let (a, b) : Nat × Nat :=
    match last with
    | .ofNat e => (num, den * Nat.pow 10 e)
    | .negSucc e => (num * Nat.pow 10 (e + 1), den)
  let low := a / b
  let readsBack (d : Nat) : Bool := ofDecimal x.isNegative d last == x
  match readsBack low, readsBack (low + 1) with
  | true, true => some (nearest a b, last)
  | true, false => some (low, last)
  | false, true => some (low + 1, last)
  | false, false => none

/-- The fewest decimal digits that read back to a finite number other than zero. -/
def shortest (x : Binary64) : Nat × Int :=
  let num := x.magnitude
  ((List.range 17).findSome? fun k => candidate x num scale (k + 1)).getD (0, 0)

/-- The digits without the zeros at their end, which the exponent takes over. -/
def stripZeros (digits : Nat) (exponent : Int) : Nat → Nat × Int
  | 0 => (digits, exponent)
  | fuel + 1 =>
    if digits ≠ 0 ∧ digits % 10 = 0 then stripZeros (digits / 10) (exponent + 1) fuel
    else (digits, exponent)

/-- Where positional notation stops: from the first exponent to below the second one. -/
def positionalFrom : Int := -4
def positionalTo : Int := 16

/-- Digits with the point after the first `point` of them. -/
def positional (digits : Text) (point : Int) : Text :=
  if point ≤ 0 then "0." ++ Text.repeated (-point).toNat '0' ++ digits
  else if digits.length ≤ point.toNat then
    digits ++ Text.repeated (point.toNat - digits.length) '0' ++ ".0"
  else digits.take point.toNat ++ .char '.' :: digits.drop point.toNat

/-- Digits with a power of ten, which has a sign and two places at least. -/
def scientific (digits : Text) (exponent : Int) : Text :=
  let power := Text.ofNat exponent.natAbs
  let mantissa : Text :=
    match digits with
    | d :: [] => [d]
    | d :: ds => d :: .char '.' :: ds
    | [] => []
  mantissa ++ (if exponent < 0 then "e-" else "e+" : Text) ++
    Text.repeated (2 - power.length) '0' ++ power

/-- The magnitude of a finite number with some places behind the point. -/
def fixedText (x : Binary64) (places : Nat) : Text :=
  let digits := Text.ofNat (nearest (x.magnitude * Nat.pow 10 places) scale)
  let digits := Text.repeated (places + 1 - digits.length) '0' ++ digits
  let whole := digits.length - places
  digits.take whole ++ (if places = 0 then [] else .char '.' :: digits.drop whole)

/-- The first digits of the magnitude of a finite number, and the exponent of the first one. -/
def firstDigits (x : Binary64) (places : Nat) : Text × Int :=
  if x.isZero then (Text.repeated places '0', 0)
  else
    let (digits, last) := x.significant places
    (Text.ofNat digits, last + (places - 1 : Nat))

/-- The magnitude of a finite number with an exponent and some places behind the point. -/
def scientificText (x : Binary64) (places : Nat) : Text :=
  let (digits, exponent) := x.firstDigits (places + 1)
  scientific digits exponent

def withoutZeros (digits : Text) : Text :=
  (digits.reverse.dropWhile (· == Code.char '0')).reverse

/-- The magnitude of a finite number by some digits, with an exponent if it has more than these in
front of the point or is very small. Zeros at the end may be left out. -/
def generalText (x : Binary64) (digits : Nat) (keepsZeros : Bool) : Text :=
  let (ds, exponent) := x.firstDigits digits
  let kept := if keepsZeros then ds else ds.take 1 ++ withoutZeros (ds.drop 1)
  if exponent < positionalFrom || (digits : Int) ≤ exponent then scientific kept exponent
  else if exponent < 0 then "0." ++ Text.repeated (-exponent - 1).toNat '0' ++ kept
  else
    let front := exponent.toNat + 1
    let fraction := if keepsZeros then ds.drop front else withoutZeros (ds.drop front)
    ds.take front ++ (if fraction.isEmpty then [] else .char '.' :: fraction)

/-- The shortest decimal text that reads back to the number. -/
def toText : Binary64 → Text
  | .nan => "nan"
  | .infinite b => if b then "-inf" else "inf"
  | .finite b s u =>
    let sign : Text := if b then "-" else ""
    if s == 0 then sign ++ "0.0"
    else
      let (d, last) := shortest (.finite b s u)
      let (d, last) := stripZeros d last 400
      let digits := Text.ofNat d
      let exponent : Int := last + digits.length - 1
      let body :=
        if positionalFrom ≤ exponent ∧ exponent < positionalTo then positional digits (exponent + 1)
        else scientific digits exponent
      sign ++ body

/-- The exact value rounded to one decimal place, a tie to the even digit. -/
def toOnePlace (x : Binary64) : Text :=
  let tenths := nearest (x.magnitude * 10) scale
  let sign : Text := if x.isNegative then "-" else ""
  sign ++ Text.ofNat (tenths / 10) ++ "." ++ Text.ofNat (tenths % 10)

end Binary64

end BindingNames
