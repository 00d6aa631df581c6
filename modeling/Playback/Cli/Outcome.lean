import Playback.Cli.FileFault
import Playback.Error
import Playback.Log.Notice
import Playback.Text.ControlSequence
import Playback.Text.Utf8

/-!
# Outcomes of commands

* `Failure`: why a command ended without a message of its own.
* `Outcome`: the exit code, what is printed, and the failure that ended the command, if one did.
* `Outcome.printing`: the outcome of a command that prints messages one after the other. Messages
  lose their control sequences, and the first one that has no bytes ends the command.
* `Outcome.reporting`: the outcome of a command that ends with a diagnostic. There surrogates that
  stand alone are written out.
-/

namespace Playback

/-- Why a command ended without a message of its own. -/
inductive Failure where
  | error (error : Error)
  /-- The input is not UTF-8. -/
  | undecodable (fault : Utf8.Fault)
  /-- The output cannot be UTF-8. -/
  | unencodable (fault : Utf8.Unencodable)
  | file (fault : FileFault)

/-- The failure in words. -/
def Failure.message : Failure → Text
  | .error e => e.message
  | .undecodable fault => fault.message
  | .unencodable fault => fault.message
  | .file fault => fault.message

/-- What a command ends with. What was logged on the way is not among the diagnostics. -/
structure Outcome where
  exitCode : Nat
  output : Text := []
  diagnostics : Text := []
  failure : Option Failure := none
  log : Log := []

namespace Outcome

/-- The end of a command that was not used as it should be. -/
def usage : Outcome := { exitCode := 2 }

/-- The end of a command that failed. -/
def failed (failure : Failure) (log : Log := []) : Outcome :=
  { exitCode := 1, failure := some failure, log := log }

/-- What is printed of messages: all of them without control sequences, up to the first one that
has no bytes. -/
def printed : List Text → Text × Option Utf8.Unencodable
  | [] => ([], none)
  | message :: messages =>
    let message := message.withoutControlSequences
    match Utf8.unencodable? message with
    | some fault => ([], some fault)
    | none =>
      let (rest, fault?) := printed messages
      (message ++ rest, fault?)

/-- The end of a command that prints messages and then exits with a code. -/
def printing (exitCode : Nat) (messages : List Text) (log : Log) : Outcome :=
  match printed messages with
  | (output, none) => { exitCode := exitCode, output := output, log := log }
  | (output, some fault) => { failed (.unencodable fault) log with output := output }

/-- The end of a command that exits with a code and a diagnostic. -/
def reporting (exitCode : Nat) (diagnostic : Text) (log : Log) : Outcome :=
  { exitCode := exitCode, diagnostics := diagnostic.surrogateEscaped, log := log }

end Outcome

end Playback
