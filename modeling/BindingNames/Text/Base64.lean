import BindingNames.Text.Code

/-!
Bytes as text of 64 characters. Four characters stand for three bytes, six bits each; an equals
sign fills up the last four. Reading skips every other character and ends at the sign that
completes the last four.
-/

namespace BindingNames.Text

namespace Base64

def alphabet : Text :=
  "ABCDEFGHIJKLMNOPQRSTUVWXYZabcdefghijklmnopqrstuvwxyz0123456789+/"

def valueOf? (c : Code) : Option Nat :=
  if alphabet.contains c then some (alphabet.idxOf c) else none

def charOf (n : Nat) : Code :=
  alphabet.getD (n % 64) 'A'

inductive Fault where
  | oneLeft (count : Nat)
  | unfilled
  deriving DecidableEq, Repr

def Fault.message : Fault → Text
  | .oneLeft count =>
    "Invalid base64-encoded string: number of data characters (" ++ Text.ofNat count ++
      ") cannot be 1 more than a multiple of 4"
  | .unfilled => "Incorrect padding"

/-- Bytes of a text: `place` is the place among four characters, `left` the bits that are left
over, `fill` the number of equals signs since the last character, and the bytes so far come last
first. -/
def decodeFrom (place left fill : Nat) (read : List UInt8) : Text → Except Fault (List UInt8)
  | [] =>
    if place = 0 then return read.reverse
    else if place = 1 then throw (.oneLeft (read.length / 3 * 4 + 1))
    else throw .unfilled
  | c :: cs =>
    if c = '=' then
      if 2 ≤ place ∧ 4 ≤ place + fill + 1 then return read.reverse
      else decodeFrom place left (if 2 ≤ place then fill + 1 else fill) read cs
    else
      match valueOf? c with
      | none => decodeFrom place left fill read cs
      | some n =>
        match place with
        | 0 => decodeFrom 1 n 0 read cs
        | 1 => decodeFrom 2 (n % 16) 0 (UInt8.ofNat (left * 4 + n / 16) :: read) cs
        | 2 => decodeFrom 3 (n % 4) 0 (UInt8.ofNat (left * 16 + n / 4) :: read) cs
        | _ => decodeFrom 0 0 0 (UInt8.ofNat (left * 64 + n) :: read) cs

def decode (cs : Text) : Except Fault (List UInt8) :=
  decodeFrom 0 0 0 [] cs

def encode : List UInt8 → Text
  | [] => []
  | [a] => [charOf (a.toNat / 4), charOf (a.toNat * 16), '=', '=']
  | [a, b] =>
    [charOf (a.toNat / 4), charOf (a.toNat * 16 % 64 + b.toNat / 16), charOf (b.toNat * 4), '=']
  | a :: b :: c :: rest =>
    charOf (a.toNat / 4) :: charOf (a.toNat * 16 % 64 + b.toNat / 16) ::
      charOf (b.toNat * 4 % 64 + c.toNat / 64) :: charOf c.toNat :: encode rest

end Base64

end BindingNames.Text
