/-!
# Ranges of code points

A character property is given by the closed ranges of its code points, in increasing order.
-/

namespace Isolation.Text

/-- Whether a code point lies in one of the closed ranges. -/
def inRanges (ranges : Array (Nat × Nat)) (code : Nat) : Bool :=
  ranges.any fun (low, high) => low ≤ code && code ≤ high

end Isolation.Text
