import Playback.Cli.FileTree
import Playback.Cli.Invocation
import Playback.Cli.Outcome
import Playback.Defaults
import Playback.Program
import Playback.Summary

/-!
# Commands

* `Environment`: what a command depends on besides its arguments and its input.
* `Invocation.perform`: the outcome of an invocation whose input was read, and the file that it
  writes.
* `Command.run`: the outcome of a whole command line on a tree of files, and the tree after it.
-/

namespace Playback

/-- What a command depends on besides its arguments and its input: the variables for the format and
the output directory, and the place of relative paths. -/
structure Environment where
  format? : Option Text
  directory? : Option Text
  base : FilePath

/-- The defaults of an environment. -/
def Environment.defaults (env : Environment) : Defaults :=
  .ofEnvironment env.base env.format? env.directory?

/-- The program text of some bytes: their characters, with every line end as one line feed. -/
def readInput (bytes : List UInt8) : Except Utf8.Fault Text :=
  (Utf8.decode bytes).map Text.withLineFeeds

/-- A text that ends with a line feed, one more if it has none there. -/
def closedLine (t : Text) : Text := if t.getLast? = some (.char '\n') then t else t ++ "\n"

/-- A file that a command writes. -/
structure WrittenFile where
  path : FilePath
  bytes : List UInt8

namespace Invocation

/-- The file that a program is written to, if it is not printed. -/
def target? (defaults : Defaults) (recording? : Option Text) (formatName : Text)
    (out? : Option Text) (save : Bool) : Option FilePath :=
  match out? with
  | some out => some (.parse out)
  | none =>
    if save then
      some (programFile defaults.directory (recording?.map FilePath.parse) formatName)
    else none

/-- The name of the format that is asked for, in lower case; an empty name asks for none. -/
def formatName (defaults : Defaults) (format? : Option Text) : Text :=
  match format? with
  | some name => if name.isEmpty then defaults.format.name else name.toLower
  | none => defaults.format.name

/-- What is printed for a format that is none. -/
def unknownFormat (name : Text) : Text :=
  "❌ 不支持的输出形态: " ++ name ++ "（可选: " ++ OutputFormat.names ++ "）\n"

/-- What is reported of a file that was written. -/
def written (path : FilePath) : Text :=
  ("已写入: " ++ path.text ++ "\n").withoutControlSequences

/-- The outcome of writing a program into a file, and the file. If the program has no bytes, the
file is there all the same and empty. -/
def writing (path : FilePath) (program : Text) (log : Log) : Outcome × WrittenFile :=
  match Utf8.encode program with
  | .ok bytes => (.reporting 0 (written path) log, ⟨path, bytes⟩)
  | .error fault => (.failed (.unencodable fault) log, ⟨path, []⟩)

/-- The outcome of `generate`, and the file that it writes. -/
def performGenerate (defaults : Defaults) (bytes : List UInt8)
    (recording? format? out? : Option Text) (save : Bool) : Outcome × Option WrittenFile :=
  let name := formatName defaults format?
  if (OutputFormat.ofName? name).isNone then (.printing 2 [unknownFormat name] [], none)
  else
    match readInput bytes with
    | .error fault => (.failed (.undecodable fault), none)
    | .ok text =>
      let run := programOf text name
      match Ending.ofResult run.result, target? defaults recording? name out? save with
      | .program program, none => (.printing 0 [closedLine program] run.log, none)
      | .program program, some path =>
        let (outcome, file) := writing path program run.log
        (outcome, some file)
      | .exit code diagnostic, _ => (.reporting code diagnostic run.log, none)
      | .failure error, _ => (.failed (.error error) run.log, none)

/-- The outcome of `inspect`. -/
def performInspect (bytes : List UInt8) : Outcome :=
  match readInput bytes with
  | .error fault => .failed (.undecodable fault)
  | .ok text =>
    let run := Recording.load text
    match run.result with
    | .ok recording => .printing 0 (recording.summaryLines.map (· ++ "\n")) run.log
    | .error error =>
      if error.isReported then .printing 1 [error.message ++ "\n"] run.log
      else .failed (.error error) run.log

/-- The outcome of an invocation whose input is `bytes`, and the file that it writes. -/
def perform (defaults : Defaults) (bytes : List UInt8) : Invocation → Outcome × Option WrittenFile
  | .generate recording? format? out? save =>
    performGenerate defaults bytes recording? format? out? save
  | .inspect _ => (performInspect bytes, none)

end Invocation

namespace Command

/-- The bytes that an invocation reads: those of a file, or of the standard input. Nothing if the
file is not there or is a directory. -/
def input? (tree : FileTree) (base : FilePath) (stdin : List UInt8) (invocation : Invocation) :
    Option (List UInt8) :=
  match invocation.recording? with
  | some recording => (tree.find? base (.parse recording)).bind tree.bytes?
  | none => some stdin

/-- The outcome of a command line on a tree of files, and the tree after it. -/
def run (env : Environment) (tree : FileTree) (stdin : List UInt8) (arguments : List Text) :
    Outcome × FileTree :=
  let read := do
    let invocation ← Invocation.parse? arguments
    return (invocation, ← input? tree env.base stdin invocation)
  match read with
  | none => (.usage, tree)
  | some (invocation, bytes) =>
    match invocation.perform env.defaults bytes with
    | (outcome, none) => (outcome, tree)
    | (outcome, some file) =>
      match tree.write env.base file.path file.bytes with
      | .ok tree => (outcome, tree)
      | .error fault => (.failed (.file fault) outcome.log, tree)

end Command

end Playback
