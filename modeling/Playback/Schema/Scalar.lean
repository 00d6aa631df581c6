import Playback.Schema.WholeNumber
import Playback.Text.Surrogate

/-!
# Texts, flags and numbers read out of JSON

Recorders write numbers and flags in several ways, and all of them are read.

* `Json.readText`: a text.
* `Json.readFlag`: `true` and `false`, one and zero, and the words that mean them.
* `Json.readInteger`: a whole number, one written with a point, a flag as one or zero, or a text
  that holds a whole number.
* `Json.readNumber`: a number as it is written; anything else as a whole number if it can be read
  as one, and as a floating-point number otherwise.
* `Json.readNullable`: a value or `null`.
-/

namespace Playback

/-- The digits that a point or an exponent may follow, those behind the point, and the rest. There
is a digit on one side of the point at least. -/
def Text.decimalParts? (t : Text) : Option (Text × Text × Text) :=
  let (whole, rest) := Json.spanDigits t
  let (fraction, rest) : Text × Text := match rest with
    | .char '.' :: more => Json.spanDigits more
    | _ => ([], rest)
  if whole.isEmpty && fraction.isEmpty then none else some (whole, fraction, rest)

/-- The floating-point number that a whole text writes: a decimal with an exponent or without one,
an infinity, or no number, behind a sign or without one. -/
def Binary64.ofText? (t : Text) : Option Binary64 :=
  let (negative, magnitude) := Json.scanSign t
  let word := magnitude.map CodePoint.toAsciiLower
  if word = ("inf" : Text) ∨ word = ("infinity" : Text) then some (.infinite negative)
  else if word = ("nan" : Text) then some .nan
  else
    match magnitude.decimalParts? with
    | none => none
    | some (whole, fraction, rest) =>
      let (exponent?, rest) := Json.scanExponent rest
      if rest.isEmpty then
        some (.ofDecimal negative (Json.digitsValue (whole ++ fraction))
          (exponent?.getD 0 - fraction.length))
      else none

/-- The floating-point number written in a text with white space around it, or in one with low lines
in it. -/
def Text.floatingPoint? (t : Text) : Option Binary64 :=
  (Binary64.ofText? (t.trim CodePoint.isWhiteSpace)).or
    (if t.isGrouped then Binary64.ofText? t.ungrouped else none)

namespace Json

/-- A text. -/
def readText : Json → Checked Text
  | .text t => .valid t
  | _ => .mismatch .text

/-- The words for a flag that is set. -/
def trueWords : List Text := ["1", "on", "t", "true", "y", "yes"]

/-- The words for a flag that is not set. -/
def falseWords : List Text := ["0", "off", "f", "false", "n", "no"]

/-- Numbers of a machine word with a sign lie from `-wordBound` up to, but not including, this
bound. -/
def wordBound : Int := 0x8000000000000000

/-- A flag given by a number of a machine word. -/
def flagOfWord (i : Int) : Checked Bool :=
  if i = 0 then .valid false else if i = 1 then .valid true else .mismatch .flagText

/-- The whole number that a floating-point number is read as. The bounds are left out on both
sides. -/
def wholeWord? (x : Binary64) : Option Int :=
  x.toInt?.filter fun i => -wordBound < i && i < wordBound

/-- A flag: a truth value, one or zero, or a word for one of them in either case. -/
def readFlag : Json → Checked Bool
  | .bool b => .valid b
  | .number (.int i) =>
    if -wordBound ≤ i ∧ i < wordBound then flagOfWord i else .mismatch .flag
  | .number (.float x) =>
    match wholeWord? x with
    | some i => flagOfWord i
    | none => .mismatch .flag
  | .text t =>
    let word := t.map CodePoint.toAsciiLower
    if !t.isUnicode then .mismatch .unicode
    else if trueWords.contains word then .valid true
    else if falseWords.contains word then .valid false
    else .mismatch .flagText
  | _ => .mismatch .flag

/-- A whole number. -/
def readInteger : Json → Checked Int
  | .number (.int i) => .valid i
  | .bool b => .valid (if b then 1 else 0)
  | .number (.float x) =>
    if !x.isFinite then .mismatch .infinite
    else if x.toInt?.isNone then .mismatch .fraction
    else
      match wholeWord? x with
      | some i => .valid i
      | none => .mismatch .oversized
  | .text t => if t.isUnicode then WholeNumber.read t else .mismatch .unicode
  | _ => .mismatch .integer

/-- A floating-point number that is not written as a number. -/
def readFloatingPoint : Json → Checked Binary64
  | .text t =>
    if !t.isUnicode then .mismatch .unicode
    else
      match t.floatingPoint? with
      | some x => .valid x
      | none => .mismatch .numberText
  | _ => .mismatch .number

/-- A number: as it is written, else a whole number, else a floating-point number. If it is neither,
both alternatives report their problems. -/
def readNumber (value : Json) : Checked Number :=
  match value with
  | .number n => .valid n
  | _ =>
    match readInteger value, readFloatingPoint value with
    | .valid i, _ => .valid (.int i)
    | _, .valid x => .valid (.float x)
    | .invalid asInteger, .invalid asFloat =>
      Checked.eitherOf "int" asInteger "float" asFloat

/-- A value, or nothing for `null`. -/
def readNullable {α : Type} (read : Json → Checked α) : Json → Checked (Option α)
  | .null => .valid none
  | value => some <$> read value

/-- A list of which every item is read. -/
def readList {α : Type} (read : Json → Checked α) : Json → Checked (List α)
  | .list items => .list read items
  | _ => .mismatch .list

end Json

end Playback
