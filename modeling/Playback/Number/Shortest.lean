import Playback.Number.Binary64
import Playback.Text.Basic

/-!
# The shortest decimal that reads back

A floating-point number is written with the fewest significant digits that are read as the same
number; of the decimals of that length the one nearest to it is taken, and of two nearest the one
with the even last digit.

* `Binary64.shortest`: those digits and the power of ten they are multiplied by.
* `Binary64.shown`: positional notation with at least one digit behind the point for decimal
  exponents from `-4` to `15`, scientific notation with an exponent of two or more digits otherwise.
-/

namespace Playback

namespace Binary64

/-- `10 ^ e ≤ numerator / denominator < 10 ^ (e + 1)` for positive arguments. -/
def decimalOrder (numerator denominator : Nat) : Int :=
  if denominator ≤ numerator then (Nat.toDigits 10 (numerator / denominator)).length - 1
  else -((Nat.toDigits 10 ((denominator - 1) / numerator)).length : Int)

/-- Does `digits · 10 ^ place` round to `significand · 2 ^ exponent`? The numbers that do lie
between the two midpoints to the neighbours; the midpoints are among them if the significand is
even. All sides are multiplied by
`4 · 2 ^ (-exponent) · 10 ^ (-place)`, with positive powers only. -/
def readsAs (significand : Nat) (exponent : Int) (digits : Nat) (place : Int) : Bool :=
  let unit := power 2 exponent * power 10 (-place)
  let value := 4 * digits * power 10 place * power 2 (-exponent)
  let below := if significand = power 2 52 ∧ exponent > leastExponent then 1 else 2
  let low := (4 * significand - below) * unit
  let high := (4 * significand + 2) * unit
  if significand % 2 = 0 then low ≤ value && value ≤ high else low < value && value < high

/-- The multiples of `10 ^ place` next to `significand · 2 ^ exponent` that are read as it, the
nearest of them, and of two nearest the even one. -/
def nearestMultiple? (significand : Nat) (exponent place : Int) : Option Nat :=
  let numerator := significand * power 2 exponent * power 10 (-place)
  let denominator := power 2 (-exponent) * power 10 place
  let below := numerator / denominator
  let nearest := roundedQuotient numerator denominator
  let other := if nearest = below then below + 1 else below
  if readsAs significand exponent nearest place then some nearest
  else if readsAs significand exponent other place then some other
  else none

/-- The shortest digits that read back, and their power of ten. -/
def shortest (significand : Nat) (exponent : Int) : Nat × Int :=
  let order := decimalOrder (significand * power 2 exponent) (power 2 (-exponent))
  let places := (List.range 17).map fun (length : Nat) => order - length
  (places.findSome? fun place => (nearestMultiple? significand exponent place).map (·, place)).getD
    (significand, 0)

/-- As many zeros as the count says, none if it is negative. -/
def zeros (count : Int) : Text := List.replicate count.toNat (.char '0')

/-- The notation of `digits · 10 ^ place`: `digits` has no zero at its end. -/
def notated (digits : Text) (place : Int) : Text :=
  let order := place + digits.length - 1
  if -4 ≤ order ∧ order < 16 then
    if 0 ≤ place then digits ++ zeros place ++ ".0"
    else if 0 ≤ order then
      digits.take (order.toNat + 1) ++ "." ++ digits.drop (order.toNat + 1)
    else "0." ++ zeros (-order - 1) ++ digits
  else
    let fraction : Text := match digits.drop 1 with
      | [] => []
      | rest => .char '.' :: rest
    let size := Text.ofNat order.natAbs
    digits.take 1 ++ fraction ++ (if order < 0 then "e-" else "e+") ++
      (if size.length < 2 then .char '0' :: size else size)

/-- The digits of a number without the zeros at its end, and how many those are. -/
def trimmedDigits (n : Nat) : Text × Nat :=
  let digits := Text.ofNat n
  let kept := (digits.reverse.dropWhile (· == .char '0')).reverse
  (kept, digits.length - kept.length)

/-- A floating-point number in the fewest digits that read back. -/
def shown : Binary64 → Text
  | .nan => "nan"
  | .infinite negative => if negative then "-inf" else "inf"
  | .finite negative significand exponent =>
    let sign : Text := if negative then "-" else ""
    if significand = 0 then sign ++ "0.0"
    else
      let (digits, place) := shortest significand exponent
      let (kept, zeros) := trimmedDigits digits
      sign ++ notated kept (place + zeros)

end Binary64

end Playback
