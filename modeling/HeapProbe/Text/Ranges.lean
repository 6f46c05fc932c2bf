/-! # Character ranges

A property of characters is given by the ranges of code points that have it, both ends included.
-/

namespace HeapProbe

abbrev CharRanges := List (Nat × Nat)

def CharRanges.contains (ranges : CharRanges) (c : Char) : Bool :=
  ranges.any fun range => range.1 ≤ c.toNat && c.toNat ≤ range.2

end HeapProbe
