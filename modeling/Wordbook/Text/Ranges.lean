/-! Sets of characters given as ranges of code points, the form in which the Unicode properties of this
library are tabulated. -/
namespace Wordbook.Text

/-- Whether a code point lies in one of the closed ranges. -/
def inRanges (ranges : List (Nat × Nat)) (code : Nat) : Bool :=
  ranges.any fun range => range.1 ≤ code && code ≤ range.2

end Wordbook.Text
