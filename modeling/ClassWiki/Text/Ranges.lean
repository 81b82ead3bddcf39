/-!
# Sorted ranges of code points

A class of characters is given by its ranges, first and last code point
included, in ascending order and apart from each other.
-/

namespace ClassWiki.Text

/-- Whether one of the ranges holds `n`; the search ends at the first range that
starts above it. -/
def inRanges (n : Nat) : List (Nat × Nat) → Bool
  | [] => false
  | (first, last) :: ranges => first ≤ n && (n ≤ last || inRanges n ranges)

def rangesSorted : List (Nat × Nat) → Bool
  | [] => true
  | [(first, last)] => first ≤ last
  | (first, last) :: (first', last') :: ranges =>
      first ≤ last && last + 1 < first' && rangesSorted ((first', last') :: ranges)

end ClassWiki.Text
