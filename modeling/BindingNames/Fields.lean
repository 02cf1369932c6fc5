import BindingNames.Failure

/-!
Mappings made from other values. Going through a value has to give pairs: lists of two, texts of
two characters or mappings of two keys. The first member of a pair is the key, which has to be a
scalar or a pair of such, and the second one its value.
-/

namespace BindingNames.Value

def pairOf (index : Nat) (v : Value) : Except KindFault (Scalar × Value) :=
  match v.members? with
  | none => throw (.notSequence index)
  | some [k, w] =>
    match k.toKey with
    | .ok k => return (k, w)
    | .error v => throw (.notKey v)
  | some members => throw (.notPair index members.length)

def pairsFrom (index : Nat) : List Value → Except KindFault Fields
  | [] => return []
  | v :: rest => do
    let p ← pairOf index v
    return p :: (← pairsFrom (index + 1) rest)

/-- The mapping that a value can be taken for. -/
def toFields (v : Value) : Except KindFault Fields :=
  match v.bare with
  | .map fields => return fields
  | bare =>
    match bare.members? with
    | none => throw (.notIterable bare)
    | some members => return ofPairs (← pairsFrom 0 members)

def toFieldsOrNone (v : Value) : Except KindFault Fields :=
  if v.holds then v.toFields else return []

theorem toFieldsOrNone_map (fields : Fields) : toFieldsOrNone (.map fields) = .ok fields := by
  cases fields with
  | nil => rfl
  | cons p rest => rfl

end BindingNames.Value
