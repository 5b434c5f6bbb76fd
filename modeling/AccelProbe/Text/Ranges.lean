/-!
# Classes of characters as ranges

A property of characters is held as the list of the code point ranges that have it, in rising order, both ends included.
-/

namespace AccelProbe

namespace Text

/-- Whether a code point lies in one of the ranges. -/
def inRanges (ranges : List (Nat × Nat)) (code : Nat) : Bool :=
  ranges.any fun range => decide (range.1 ≤ code ∧ code ≤ range.2)

end Text

end AccelProbe
