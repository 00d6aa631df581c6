/-!
# Floating-point numbers as exact values

A recorded number with a point or an exponent is kept as the nearest binary number of 53 significant
bits. No arithmetic is done with it: it is read, compared, and written again.

* `Binary64`: a finite number is `significand · 2 ^ exponent`, up to its sign.
* `Binary64.power`: the powers that both sides of a comparison of such numbers are multiplied by.
* `Binary64.ofRatio`, `Binary64.ofDecimal`: the nearest number to a quotient or a decimal; of two
  nearest the one with the even significand.
* `Binary64.toInt?`: the whole number that a floating-point number is.
-/

namespace Playback

/-- A floating-point number of 53 significant bits with exponents from `-1074` to `971`. -/
inductive Binary64 where
  | nan
  | infinite (negative : Bool)
  | finite (negative : Bool) (significand : Nat) (exponent : Int)
  deriving DecidableEq

namespace Binary64

/-- The exponent of the smallest numbers. -/
def leastExponent : Int := -1074

/-- The exponent of the largest numbers. -/
def greatestExponent : Int := 971

/-- The zero of a sign. -/
def zero (negative : Bool) : Binary64 := .finite negative 0 leastExponent

/-- `base ^ exponent`, and one for a negative exponent. -/
def power (base : Nat) (exponent : Int) : Nat := Nat.pow base exponent.toNat

/-- `numerator / denominator` to the nearest whole number, a half to the even neighbour. -/
def roundedQuotient (numerator denominator : Nat) : Nat :=
  let quotient := numerator / denominator
  let twice := 2 * (numerator % denominator)
  if twice < denominator ∨ (twice = denominator ∧ quotient % 2 = 0) then quotient else quotient + 1

/-- `2 ^ e ≤ numerator / denominator < 2 ^ (e + 1)` for positive arguments. -/
def binaryOrder (numerator denominator : Nat) : Int :=
  let guess : Int := (numerator.log2 : Int) - (denominator.log2 : Int)
  if denominator * power 2 guess ≤ numerator * power 2 (-guess) then guess else guess - 1

/-- The nearest number to `numerator / denominator`, where the denominator is positive. -/
def ofRatio (negative : Bool) (numerator denominator : Nat) : Binary64 :=
  if numerator = 0 then zero negative
  else
    let exponent := max (binaryOrder numerator denominator - 52) leastExponent
    let significand :=
      roundedQuotient (numerator * power 2 (-exponent)) (denominator * power 2 exponent)
    let (significand, exponent) :=
      if significand = power 2 53 then (power 2 52, exponent + 1) else (significand, exponent)
    if exponent > greatestExponent then .infinite negative
    else if significand = 0 then zero negative
    else .finite negative significand exponent

/-- The nearest number to `digits · 10 ^ exponent`. Decimals of 400 and more places in front of the
point are infinite, those that begin 400 and more places behind it are zero. -/
def ofDecimal (negative : Bool) (digits : Nat) (exponent : Int) : Binary64 :=
  if digits = 0 then zero negative
  else
    let order := exponent + (Nat.toDigits 10 digits).length
    if order > 400 then .infinite negative
    else if order < -400 then zero negative
    else ofRatio negative (digits * power 10 exponent) (power 10 (-exponent))

/-- The whole number that a finite number is. -/
def toInt? : Binary64 → Option Int
  | .finite negative significand exponent =>
    if significand * power 2 exponent % power 2 (-exponent) = 0 then
      let size := significand * power 2 exponent / power 2 (-exponent)
      some (if negative then -size else size)
    else none
  | _ => none

/-- Is the number finite? -/
def isFinite : Binary64 → Bool
  | .finite .. => true
  | _ => false

end Binary64

end Playback
