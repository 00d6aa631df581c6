import Playback.Cli.Command

/-!
# The program

Reads the arguments, the environment and the input, does what the command comes to, and prints its
outcome. All decisions are those of `Invocation.parse?` and `Invocation.perform`.
-/

open Playback

/-- All bytes of a stream, behind the ones that were read already. -/
partial def readAll (stream : IO.FS.Stream) (before : ByteArray) : IO ByteArray := do
  let chunk ← stream.read 65536
  if chunk.isEmpty then return before else readAll stream (before ++ chunk)

/-- The bytes that an invocation reads, if they can be read. -/
def readBytes (invocation : Invocation) : IO (Option (List UInt8)) := do
  match invocation.recording? with
  | none => return some (← readAll (← IO.getStdin) ByteArray.empty).toList
  | some recording =>
    try
      let path := (FilePath.parse recording).text
      return some (← IO.FS.readBinFile (Text.toString path)).toList
    catch _ => return none

/-- The value of a variable of the environment. -/
def readVariable (name : String) : IO (Option Text) := do
  return (← IO.getEnv name).map Text.ofString

/-- Prints an outcome, with what was logged at a level. -/
def printOutcome (level : Level) (outcome : Outcome) : IO Unit := do
  IO.eprint (Text.toString (outcome.log.text level))
  IO.print (Text.toString outcome.output)
  IO.eprint (Text.toString outcome.diagnostics)
  if let some failure := outcome.failure then IO.eprintln (Text.toString failure.message)

/-- Writes a file, below directories that are made where they are missing. -/
def writeFile (file : WrittenFile) : IO Unit := do
  IO.FS.createDirAll (Text.toString file.path.parent.text)
  IO.FS.writeBinFile (Text.toString file.path.text) ⟨file.bytes.toArray⟩

def main (arguments : List String) : IO UInt32 := do
  let levelName := (← readVariable "RECORDGEN_LOG_LEVEL").getD "INFO"
  match Level.named levelName with
  | .error fault =>
    IO.eprintln (Text.toString fault.message)
    return 1
  | .ok level =>
    let env : Environment :=
      { format? := ← readVariable "RECORDGEN_FORMAT"
        directory? := ← readVariable "RECORDGEN_OUTPUT_DIR"
        base := .parse (Text.ofString (← IO.currentDir).toString) }
    match Invocation.parse? (arguments.map Text.ofString) with
    | none => return 2
    | some invocation =>
      match ← readBytes invocation with
      | none => return 2
      | some bytes =>
        let (outcome, file?) := invocation.perform env.defaults bytes
        if let some file := file? then writeFile file
        printOutcome level outcome
        return outcome.exitCode.toUInt32
