/-! # Sets of code points

A character class is given as a list of closed ranges. -/

namespace Telemetry.Text

/-- Whether a code point lies in one of the closed ranges. -/
def inRanges (ranges : List (Nat × Nat)) (n : Nat) : Bool :=
  ranges.any fun r => r.1 ≤ n && n ≤ r.2

end Telemetry.Text
