import Playback.Text.Basic

/-!
# Control sequences

A control sequence tells a terminal how to go on: an escape character and an opening bracket,
parameters, and a letter.

* `Text.controlSequenceLength`: the length of the control sequence that a text begins with.
* `Text.withoutControlSequences`: the text that is left if every control sequence is taken out.
  A control sequence has an escape character in front only, so no two of them overlap; what the
  remaining text comes to is not looked at again.
-/

namespace Playback

/-- Is the code point one that the parameters of a control sequence are made of? -/
def CodePoint.isControlParameter (p : CodePoint) : Bool :=
  p.isAsciiDigit || p == .char ';' || p == .char '?'

namespace Text

/-- The length of the control sequence that a text begins with, zero if there is none. -/
def controlSequenceLength : Text → Nat
  | .char '\x1b' :: .char '[' :: rest =>
    match rest.dropWhile CodePoint.isControlParameter with
    | [] => 0
    | p :: _ =>
      if p.isAsciiLetter then (rest.takeWhile CodePoint.isControlParameter).length + 3 else 0
  | _ => 0

/-- The text without its first `skipped` code points and without the control sequences behind
them. -/
def withoutControlSequencesFrom (skipped : Nat) : Text → Text
  | [] => []
  | p :: rest =>
    match skipped, controlSequenceLength (p :: rest) with
    | skipped + 1, _ => withoutControlSequencesFrom skipped rest
    | 0, length + 1 => withoutControlSequencesFrom length rest
    | 0, 0 => p :: withoutControlSequencesFrom 0 rest

/-- The text without control sequences. -/
def withoutControlSequences (t : Text) : Text := t.withoutControlSequencesFrom 0

end Text

end Playback
