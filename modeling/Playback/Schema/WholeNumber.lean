import Playback.Json.Token
import Playback.Schema.Checked
import Playback.Text.Blank

/-!
# Whole numbers written in a text

The plain form of a whole number is a minus sign or none and the digits, without a zero in front of
others. A text may have more than that: white space around the number, a plus sign, zeros in front,
low lines between digits, and a fraction of zeros.

* `WholeNumber.plain?`: the number of a text in the plain form.
* `WholeNumber.withoutZeros?`, `WholeNumber.withoutFraction`, `WholeNumber.withoutGroups`: the three
  parts that are taken away, in this order.
* `WholeNumber.ofText?`: the number of a text. The zeros in front may have low lines among them and
  a minus sign behind them.
* `WholeNumber.read`: the same with the problem that the text has. A text that begins with more
  digits than a number may have is too large a number, whatever follows; in any other place too many
  digits are no number at all.
-/

namespace Playback

/-- Does every low line of the text stand between two other code points? -/
def Text.isGrouped (t : Text) : Bool :=
  let line : CodePoint := .char '_'
  t.head? != some line && t.getLast? != some line && !(t.zip t.tail).contains (line, line)

/-- The text without its low lines. -/
def Text.ungrouped (t : Text) : Text := t.filter (· != .char '_')

namespace WholeNumber

/-- Is there a minus sign in front? And what follows it, or the whole text. -/
def scanMinus : Text → Bool × Text
  | .char '-' :: rest => (true, rest)
  | t => (false, t)

/-- The number of a text in the plain form. -/
def plain? (t : Text) : Option Int :=
  let (negative, magnitude) := scanMinus t
  let (digits, rest) := Json.scanWhole magnitude
  if digits.isEmpty || !rest.isEmpty || digits.length > Integer.maxDigits then none
  else
    let value : Int := Json.digitsValue digits
    some (if negative then -value else value)

/-- The text without the zeros and low lines in front of it, of which `last` is the last one so far.
It is kept where a point follows and where nothing does. -/
def skipZeros (last : CodePoint) : Text → Option Text
  | [] => some [last]
  | p :: rest =>
    if p = .char '0' ∨ p = .char '_' then skipZeros p rest
    else if p = .char '.' then some (last :: p :: rest)
    else if p = .char '-' ∨ p.isAsciiDigit then some (p :: rest)
    else none

/-- The text without the zeros in front of it, if it begins with a digit or a minus sign. -/
def withoutZeros? : Text → Option Text
  | [] => none
  | p :: rest =>
    if p = .char '0' then skipZeros p rest
    else if p = .char '-' ∨ p.isAsciiDigit then some (p :: rest)
    else none

/-- Is the text a point and zeros? -/
def isZeroFraction : Text → Bool
  | .char '.' :: zeros => !zeros.isEmpty && zeros.all (· == .char '0')
  | _ => false

/-- The text without a fraction of zeros. -/
def withoutFraction (t : Text) : Text :=
  if isZeroFraction (t.dropWhile (· != .char '.')) then t.takeWhile (· != .char '.') else t

/-- The text without low lines, if each of them stands between two other code points. -/
def withoutGroups (t : Text) : Text := if t.isGrouped then t.ungrouped else t

/-- The text without all that the plain form does not have behind a sign. -/
def tidied? (t : Text) : Option Text :=
  (withoutZeros? t).map fun t => withoutGroups (withoutFraction t)

/-- The number of a text without white space around it. -/
def ofTrimmed? (t : Text) : Option Int :=
  match t with
  | .char '+' :: .char '-' :: _ => none
  | .char '+' :: rest => (tidied? rest).bind plain?
  | .char '-' :: rest => (tidied? rest).bind fun magnitude => plain? (.char '-' :: magnitude)
  | _ => (tidied? t).bind plain?

/-- The number of a text. -/
def ofText? (t : Text) : Option Int := ofTrimmed? (t.trim CodePoint.isWhiteSpace)

/-- Does the text begin with more digits than a number may have? -/
def isOversized (t : Text) : Bool :=
  (Json.scanWhole (scanMinus t).2).1.length > Integer.maxDigits

/-- The number of a text, or the problem that the text has. -/
def read (t : Text) : Checked Int :=
  if isOversized t then .mismatch .oversized
  else
    match ofText? t with
    | some value => .valid value
    | none => .mismatch .integerText

end WholeNumber

end Playback
