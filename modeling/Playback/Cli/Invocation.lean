import Playback.FilePath

/-!
# Reading the command line

There are two commands: `generate`, which writes the program of a recording, and `inspect`, which
summarises one.

* `Invocation`: what a command line asks for.
* `Options`: the option values and the other arguments of a command, as they were read.
* `Invocation.parse?`: the invocation of the arguments; nothing if they are not used as they should
  be.

An option that takes a value has it behind `=` or in the next argument, whatever that looks like; a
short option may have it in the same argument. The last value of an option counts, and only that has
to be one that the option can have. Behind `--` there are no options.
-/

namespace Playback

/-- What a command line asks for. -/
inductive Invocation where
  /-- Write the program of a recording: of the standard input if no file is named. -/
  | generate (recording? format? out? : Option Text) (save : Bool)
  /-- Summarise a recording. -/
  | inspect (recording : Text)

namespace Invocation

/-- The file that an invocation reads. -/
def recording? : Invocation → Option Text
  | .generate recording? .. => recording?
  | .inspect recording => some recording

end Invocation

/-- The options of a command. -/
inductive CommandOption where
  | format
  | out
  | save
  deriving DecidableEq

/-- Does the option take a value? -/
def CommandOption.takesValue : CommandOption → Bool
  | .save => false
  | _ => true

/-- What was read of the arguments of a command. -/
structure Options where
  format? : Option Text := none
  out? : Option Text := none
  save : Bool := false
  /-- The arguments that are no options, last first. -/
  others : List Text := []

namespace Options

/-- The options with a further one. -/
def set (options : Options) (value : Text) : CommandOption → Options
  | .format => { options with format? := some value }
  | .out => { options with out? := some value }
  | .save => { options with save := true }

end Options

/-- The options that a command has: by their long names, and by their letters. -/
structure OptionNames where
  long : List (Text × CommandOption)
  short : List (CodePoint × CommandOption)

/-- The options of `generate`. -/
def generateOptions : OptionNames where
  long := [("--format", .format), ("--out", .out), ("--save", .save)]
  short := [(.char 'f', .format), (.char 'o', .out)]

/-- The options of `inspect`. -/
def inspectOptions : OptionNames := ⟨[], []⟩

/-- What an argument is that begins with a hyphen and is longer than that. -/
inductive OptionUse where
  /-- An option and all that it needs. -/
  | complete (option : CommandOption) (value : Text)
  /-- An option whose value is the next argument. -/
  | needsValue (option : CommandOption)
  /-- No option of the command, or one that takes no value with a value. -/
  | wrong

namespace OptionNames

/-- The use of a long option, with the value behind its `=`. -/
def useLong (names : OptionNames) (name : Text) (value? : Option Text) : OptionUse :=
  match List.lookup name names.long, value? with
  | none, _ => .wrong
  | some option, some value => if option.takesValue then .complete option value else .wrong
  | some option, none => if option.takesValue then .needsValue option else .complete option []

/-- The use of a short option, with what stands behind its letter. All short options take values. -/
def useShort (names : OptionNames) : Text → OptionUse
  | [] => .wrong
  | letter :: rest =>
    match List.lookup letter names.short with
    | none => .wrong
    | some option => if rest.isEmpty then .needsValue option else .complete option rest

/-- The part of an argument in front of its first `=`, and the part behind it. -/
def splitValue (argument : Text) : Text × Option Text :=
  match argument.dropWhile (· != .char '=') with
  | [] => (argument, none)
  | _ :: value => (argument.takeWhile (· != .char '='), some value)

/-- The use of an argument that begins with a hyphen. -/
def use (names : OptionNames) (argument : Text) : OptionUse :=
  match argument with
  | .char '-' :: .char '-' :: _ =>
    let (name, value?) := splitValue argument
    names.useLong name value?
  | _ => names.useShort argument.tail

end OptionNames

/-- Is the argument an option, or meant as one? -/
def isOption (argument : Text) : Bool := argument.head? == some (.char '-') && argument.length > 1

/-- The end of the options. -/
def endOfOptions : Text := "--"

/-- The options and arguments behind the ones that were read already. -/
def Options.read? (names : OptionNames) (options : Options) : List Text → Option Options
  | [] => some options
  | argument :: rest =>
    if argument = endOfOptions then some { options with others := rest.reverse ++ options.others }
    else if isOption argument then
      match names.use argument, rest with
      | .complete option value, rest => read? names (options.set value option) rest
      | .needsValue option, value :: rest => read? names (options.set value option) rest
      | .needsValue _, [] => none
      | .wrong, _ => none
    else read? names { options with others := argument :: options.others } rest

/-- Do the arguments that name files name possible ones? Every text may be asked for as a format,
but only one that a path can have names a file. -/
def Options.namePossibleFiles (options : Options) : Bool :=
  options.out?.all FilePath.isPossible && options.others.all FilePath.isPossible

/-- The options and arguments of a command. -/
def Options.ofArguments? (names : OptionNames) (arguments : List Text) : Option Options :=
  (read? names {} arguments).filter namePossibleFiles

namespace Invocation

/-- The invocation of a command and its arguments. -/
def ofCommand? (command : Text) (arguments : List Text) : Option Invocation :=
  if command = ("generate" : Text) then do
    let options ← Options.ofArguments? generateOptions arguments
    match options.others with
    | [] => return .generate none options.format? options.out? options.save
    | [recording] => return .generate (some recording) options.format? options.out? options.save
    | _ => none
  else if command = ("inspect" : Text) then do
    let options ← Options.ofArguments? inspectOptions arguments
    match options.others with
    | [recording] => return .inspect recording
    | _ => none
  else none

/-- The invocation of the arguments of the program. -/
def parse? : List Text → Option Invocation
  | [] => none
  | command :: arguments =>
    if command = endOfOptions then
      match arguments with
      | [] => none
      | command :: arguments => ofCommand? command arguments
    else ofCommand? command arguments

end Invocation

end Playback
