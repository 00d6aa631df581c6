import Playback.Text.Alphanumeric
import Playback.Text.Digit

/-!
# Names of generated modules

The file of a test is found and imported by its name, so the name of a recording is turned into one
that holds only letters, numbers and low lines and does not begin with a digit.
-/

namespace Playback

/-- The name of a module for a recording of this name: a low line for every other code point than a
letter, a number or a low line, and one in front of a digit or of nothing. -/
def moduleName (name : Text) : Text :=
  let words : Text := name.map fun p => if p.isWord then p else .char '_'
  match words with
  | [] => [.char '_']
  | first :: _ => if first.isDigit then .char '_' :: words else words

end Playback
