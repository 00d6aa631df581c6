import Playback.Json.Decode
import Playback.Json.Shown
import Playback.Output.Format
import Playback.Schema.Checked
import Playback.Text.Lines

/-!
# Errors

* `Error`: all that can keep a recording from becoming a program.
* `Error.detail`: the error in words.
* `Error.isReported`: is the error one of the recording, which the command line reports in a banner?
  `Error.message` has the lead that such an error is reported with, `Error.record` the record that
  it shows, and `Error.banner` is the banner.
-/

namespace Playback

/-- Why a line is not a record. -/
inductive Defect where
  /-- The line is not JSON. -/
  | json (fault : Json.Fault)
  /-- The line is JSON of another kind than an object. -/
  | notAnObject (kind : Text)
  /-- The object is not what its place in the recording asks for. -/
  | problems (problems : List Problem)

/-- The defect in words. -/
def Defect.text : Defect → Text
  | .json fault => "invalid JSON (" ++ fault.message ++ ")"
  | .notAnObject kind => "expected a JSON object, got " ++ kind
  | .problems found => Text.joined "; " (found.map Problem.text)

/-- What keeps a recording from becoming a program. -/
inductive Error where
  /-- There is no record at all. -/
  | emptyInput
  /-- There is no record behind the header. -/
  | headerOnly (header : Json.Members)
  /-- A line, counted from one, is not a record; the members are those of the object on it. -/
  | malformed (line : Nat) (defect : Defect) (record : Json.Members)
  /-- An event has a name that no action has. -/
  | unknownAction (name : Text) (record : Json.Members)
  /-- An event has a signal that no code is known for. -/
  | unknownSignal (name : Text) (record : Json.Members)
  /-- The output format has no such name. -/
  | unknownFormat (name : Text)
  /-- A whole number cannot be read. -/
  | integer (fault : Integer.Fault)

namespace Error

/-- The error in words. -/
def detail : Error → Text
  | .emptyInput => "Empty JSONL input. No actions recorded."
  | .headerOnly _ => "JSONL has header but no actions. Nothing was recorded."
  | .malformed line defect _ =>
    "Malformed JSONL record on line " ++ Text.ofNat line ++ ": " ++
      defect.text
  | .unknownAction name _ =>
    "Unknown action '" ++ name ++ "' is not implemented."
  | .unknownSignal name _ =>
    "Unknown signal '" ++ name ++ "' is not implemented."
  | .unknownFormat name =>
    "Unknown output format '" ++ name ++
      "'. Expected one of: " ++ OutputFormat.names
  | .integer fault => fault.message

/-- Is the error one of the recording, which is reported in a banner? -/
def isReported : Error → Bool
  | .unknownFormat _ | .integer _ => false
  | _ => true

/-- The error in words, with the lead of a reported one. -/
def message (error : Error) : Text :=
  if error.isReported then "Codegen error: " ++ error.detail else error.detail

/-- The record that the error shows. -/
def record : Error → Json.Members
  | .headerOnly record | .malformed _ _ record | .unknownAction _ record
  | .unknownSignal _ record => record
  | _ => []

/-- The rule above and below a banner. -/
def rule : Text := List.replicate 70 (.char '=')

/-- The lines of the banner of an error. The record follows if the error has one. -/
def bannerLines (error : Error) : List Text :=
  [[], rule, "CODEGEN FATAL ERROR", rule, [], error.detail] ++
    (if error.record.isEmpty then []
    else [[], "Record data:", (Json.object error.record).shown]) ++
    [rule]

/-- The banner of an error. -/
def banner (error : Error) : Text := Text.ofLines error.bannerLines

end Error

end Playback
