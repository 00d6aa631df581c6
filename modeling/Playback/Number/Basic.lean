import Playback.Number.Shortest

/-!
# Recorded numbers

A number is a whole number of any size or a floating-point number, and it keeps which of the two it
was written as: `1` and `1.0` are different numbers.
-/

namespace Playback

/-- A whole number or a floating-point number. -/
inductive Number where
  | int (value : Int)
  | float (value : Binary64)
  deriving DecidableEq

/-- A number in decimal notation. -/
def Number.shown : Number → Text
  | .int value => Text.ofInt value
  | .float value => value.shown

end Playback
