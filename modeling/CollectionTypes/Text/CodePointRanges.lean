/-!
# Ranges of code points

A property of characters is kept as a list of ranges, both ends included.
-/

namespace CollectionTypes.Text

/-- Looks through the ranges one by one. -/
def inRanges (ranges : List (Nat × Nat)) (codePoint : Nat) : Bool :=
  ranges.any fun range => range.1 ≤ codePoint && codePoint ≤ range.2

end CollectionTypes.Text
