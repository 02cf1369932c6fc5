import BindingNames.Value

/-!
The order of a set of numbers. A set has a table of places, more than twice as many as members
once there are more than four, and at least eight. Each number goes to the place that its residue
gives, or to a later one if that is taken, and the members are gone through by place. Numbers
that are equal have the same residue, whatever their kind. Members of other kinds have no order
but that in which they were written.
-/

namespace BindingNames

namespace SetOrder

def modulus : Nat := Nat.pow 2 61 - 1

/-- The residue of a number with a sign; the one before zero is passed over. -/
def signed (negative : Bool) (n : Nat) : Int :=
  if !negative then n else if n = 1 then -2 else -n

/-- The residue of a finite number. A power of two has one of the exponent's own modulus, for
`2 ^ 61` leaves one. -/
def residue? : Scalar → Option Int
  | .bool b => some (if b then 1 else 0)
  | .int i => some (signed (i < 0) (i.natAbs % modulus))
  | .float (.finite b s u) => some (signed b (s * Nat.pow 2 ((u + 1074 * 60) % 61) % modulus))
  | .float (.infinite b) => some (if b then -314159 else 314159)
  | _ => none

def tableSize (count : Nat) : Nat :=
  if count < 5 then 8 else max 8 (Nat.pow 2 (Nat.log2 (2 * count) + 1))

/-- How many places in a row are tried, if so many are left. -/
def rowLength : Nat := 10

/-- The first place that is not taken, from one on. After each row the next place depends on what
is left of the residue. -/
def freePlace (size : Nat) (taken : List Nat) : Nat → Nat → Nat → Nat
  | 0, place, _ => place
  | fuel + 1, place, rest =>
    let row :=
      if place + rowLength ≤ size then (List.range rowLength).map (place + ·) else [place]
    match row.find? (!taken.contains ·) with
    | some free => free
    | none =>
      let rest := rest / 32
      freePlace size taken fuel ((place * 5 + 1 + rest) % size) rest

def insert (size : Nat) (members : List (Nat × Scalar)) (residue : Int) (s : Scalar) :
    List (Nat × Scalar) :=
  let unsigned := (residue % (Nat.pow 2 64 : Nat)).toNat
  let place := freePlace size (members.map (·.1)) (size + 14) (unsigned % size) unsigned
  (place, s) :: members

end SetOrder

def inSetOrder (members : List Scalar) : List Scalar :=
  match members.mapM SetOrder.residue? with
  | none => members
  | some residues =>
    let size := SetOrder.tableSize members.length
    let placed := (residues.zip members).foldl (fun all (r, s) => SetOrder.insert size all r s) []
    (placed.mergeSort fun a b => decide (a.1 ≤ b.1)).map (·.2)

end BindingNames
