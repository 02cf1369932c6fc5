/-!
Sets of characters given as ranges. A table lists the two ends of each range, in increasing
order, and a character belongs to the set when its code point lies between the ends of one.
-/

namespace BindingNames.Text

/-- Whether a code point lies in one of the ranges of a table. -/
def inRanges : List Nat → Nat → Bool
  | lo :: hi :: rest, n => (lo ≤ n && n ≤ hi) || inRanges rest n
  | _, _ => false

end BindingNames.Text
