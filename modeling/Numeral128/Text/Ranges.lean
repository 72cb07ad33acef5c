/-!
# Sets of characters as ranges

A property of characters is given by the list of the ranges, first and last code point, that have
it.
-/

namespace Numeral128.Text

/-- Whether `c` lies in one of the `ranges`. -/
def inRanges (ranges : List (Nat × Nat)) (c : Char) : Bool :=
  ranges.any fun (first, last) => first ≤ c.toNat && c.toNat ≤ last

end Numeral128.Text
