/-!
# Sets of code points given by ranges

A property of characters that a standard lists is kept as a list of closed ranges in increasing
order; membership is a look through the list.
-/

namespace SqlInventory

/-- Closed ranges of code points, in increasing order. -/
abbrev CodeRanges : Type := List (Nat × Nat)

/-- Whether code point `n` lies in one of the ranges. -/
def CodeRanges.has (ranges : CodeRanges) (n : Nat) : Bool :=
  ranges.any fun r => decide (r.1 ≤ n) && decide (n ≤ r.2)

end SqlInventory
