import Playback.Text.Digit
import Playback.Text.Shown

/-!
# Whole numbers written in the digits of any script

* `Integer.read`: a whole number in decimal digits of any script, with at most one minus sign.
* `Integer.Fault`: why a text is not one. Numbers of more than `Integer.maxDigits` digits are
  refused, zeros in front included.
* `Integer.Fault.message`: the fault in words.
-/

namespace Playback

namespace Integer

/-- The most digits that a whole number is read from. -/
def maxDigits : Nat := 4300

/-- Why a text is not read as a whole number. -/
inductive Fault where
  /-- The text is not a sign and digits. -/
  | notANumber (text : Text)
  /-- The number has more than `maxDigits` digits. -/
  | tooManyDigits (count : Nat)
  deriving DecidableEq

/-- The fault in words. A text that is no number is shown up to its two-hundredth code point. -/
def Fault.message : Fault → Text
  | .notANumber text => "invalid literal for int() with base 10: " ++ text.shown.take 200
  | .tooManyDigits count =>
    "Exceeds the limit (" ++ Text.ofNat maxDigits ++
      " digits) for integer string conversion: value has " ++ Text.ofNat count ++
      " digits; use sys.set_int_max_str_digits() to increase the limit"

/-- The number of a list of digit values, the first of them the leading one. -/
def ofDigits (digits : List Nat) : Nat := digits.foldl (fun n digit => 10 * n + digit) 0

/-- The values of the decimal digits that a text begins with, and the rest of it. -/
def leadingDigits : Text → List Nat × Text
  | [] => ([], [])
  | p :: rest =>
    match p.decimalValue? with
    | some digit =>
      let (digits, rest) := leadingDigits rest
      (digit :: digits, rest)
    | none => ([], p :: rest)

/-- The whole number of a text: decimal digits of any script behind at most one minus sign. -/
def read (text : Text) : Except Fault Int :=
  let (negative, magnitude) : Bool × Text := match text with
    | .char '-' :: rest => (true, rest)
    | _ => (false, text)
  let (digits, rest) := leadingDigits magnitude
  if digits.length > maxDigits then .error (.tooManyDigits digits.length)
  else if digits.isEmpty || !rest.isEmpty then .error (.notANumber text)
  else .ok (if negative then -(ofDigits digits : Int) else ofDigits digits)

end Integer

end Playback
