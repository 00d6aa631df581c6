import Playback.Error
import Playback.Recording.Event
import Playback.Recording.Header
import Playback.Text.Lines

/-!
# Recordings

A recording is a text with one record on each line that is not blank: the header, and then the
events in the order in which they happened.

* `Recording`: the header and the events.
* `Recording.parse`: the recording of a text. The first line that is not what it should be decides
  the error; lines are counted from one, the blank ones included.
-/

namespace Playback

/-- The header and the events of a recording. -/
structure Recording where
  header : Header
  events : List Event

namespace Recording

/-- The members of the object on a line. -/
def readLine (number : Nat) (line : Text) : Except Error Json.Members :=
  match Json.decode line with
  | .ok (.object members) => .ok members
  | .ok value => .error (.malformed number (.notAnObject value.kind) [])
  | .error (.hugeNumber digits) => .error (.integer (.tooManyDigits digits))
  | .error fault => .error (.malformed number (.json fault) [])

/-- The value that is read from the members of the object on a line. -/
def readRecord {α : Type} (read : Json.Members → Checked α) (number : Nat)
    (members : Json.Members) : Except Error α :=
  match read members with
  | .valid value => .ok value
  | .invalid problems => .error (.malformed number (.problems problems) members)

/-- The event on a line. -/
def readEvent (number : Nat) (line : Text) : Except Error Event := do
  readRecord Event.read number (← readLine number line)

/-- The lines that are not blank, each with its number. -/
def numberedLines (text : Text) : List (Text × Nat) :=
  (text.lines.zipIdx 1).filter fun (line, _) => !line.isBlank

/-- The recording of a text. -/
def parse (text : Text) : Except Error Recording :=
  match numberedLines text with
  | [] => .error .emptyInput
  | (headerLine, number) :: lines => do
    let members ← readLine number headerLine
    if lines.isEmpty then throw (.headerOnly members)
    let header ← readRecord Header.read number members
    let events ← lines.mapM fun (line, number) => readEvent number line
    return ⟨header, events⟩

end Recording

end Playback
