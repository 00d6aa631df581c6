import Playback.Event.Snippet
import Playback.Output.Program
import Playback.Recording.Basic

/-!
# From a recording to a program

`Recording.program` makes the program of a recording, and `programOf` that of a recording's text in
the format of a name. The format is looked up first, then the whole text is read, then the snippets
of the events are made in order; the first thing that fails ends it. `Ending` is how this ends for a
process that is to exit where an error of the recording is found.
-/

namespace Playback

/-- The format of a name, or the error that there is none. -/
def OutputFormat.find (name : Text) : Except Error OutputFormat :=
  match ofName? name with
  | some format => .ok format
  | none => .error (.unknownFormat name)

/-- The snippets of events, the first of which is counted as `position`. -/
def snippetsFrom (position : Nat) : List Event → Run (List Snippet)
  | [] => return []
  | event :: events => do
    Run.notice (.started position event.name)
    let snippet ← event.snippet
    return snippet :: (← snippetsFrom (position + 1) events)

namespace Recording

/-- The recording of a text. -/
def load (text : Text) : Run Recording := do
  let recording ← Run.ofExcept (parse text)
  Run.notice (.parsed recording.header.browser recording.events.length)
  return recording

/-- The program of a recording. -/
def program (recording : Recording) (format : OutputFormat) : Run Text := do
  let snippets ← snippetsFrom 1 recording.events
  Run.notice (.finished format snippets.length)
  return format.program recording.header snippets

end Recording

/-- The program of a recording's text, in the format of a name. -/
def programOf (text formatName : Text) : Run Text := do
  let format ← Run.ofExcept (OutputFormat.find formatName)
  (← Recording.load text).program format

/-- How making a program ends for a process that is to exit at an error of the recording. -/
inductive Ending where
  /-- The program comes out. -/
  | program (text : Text)
  /-- The process exits with a code and a diagnostic. -/
  | exit (code : Nat) (diagnostic : Text)
  /-- An error of another kind is left to the caller. -/
  | failure (error : Error)

/-- The ending with a result. An error of the recording is reported in its banner. -/
def Ending.ofResult : Except Error Text → Ending
  | .ok text => .program text
  | .error error => if error.isReported then .exit 1 error.banner else .failure error

end Playback
