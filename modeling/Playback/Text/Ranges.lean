import Playback.Text.Basic

/-!
# Classes given by ranges

A class of code points that has no shorter description is a list of inclusive ranges of numbers.
-/

namespace Playback

/-- Inclusive ranges of code point numbers, ascending. -/
abbrev Ranges := List (Nat × Nat)

/-- Does one of the ranges hold the number? -/
def Ranges.holds (ranges : Ranges) (n : Nat) : Bool :=
  ranges.any fun (low, high) => low ≤ n && n ≤ high

end Playback
