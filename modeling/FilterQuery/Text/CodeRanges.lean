/-!
# Ranges of code points

A property of characters is kept as the ranges of the code points that have it.  A table is written
down in ascending order, with at least one code point between any two of its ranges, so that each
property has one table only.  Looking a character up does not depend on that.
-/

namespace FilterQuery

/-- Ranges of code points, ends included. -/
abbrev CodeRanges := List (Nat × Nat)

namespace CodeRanges

/-- Is the character in one of the ranges? -/
def holds (ranges : CodeRanges) (c : Char) : Bool :=
  ranges.any fun (first, last) => first ≤ c.toNat && c.toNat ≤ last

/-- The number of code points in ranges that do not overlap. -/
def size : CodeRanges → Nat
  | [] => 0
  | (first, last) :: rest => last + 1 - first + size rest

/-- Are all ranges at or above `bound`, in ascending order and apart? -/
def isAscendingFrom (bound : Nat) : CodeRanges → Bool
  | [] => true
  | (first, last) :: rest => bound ≤ first && first ≤ last && isAscendingFrom (last + 2) rest

end CodeRanges

end FilterQuery
