import Playback.Text.Basic

/-!
# Checked values

Reading a value out of JSON either succeeds or reports every problem that the JSON has, each with
the path to its place.

* `Problem`: a fault at a path; `Problem.text` names both.
* `Checked`: a value, or the problems in its way. `Checked.both` and the applicative operators built
  on it keep the problems of both sides, the left ones first.
* `Checked.under`: the problems moved below a key or an index.
* `Checked.list`: every item of a list checked, its problems under its index.
-/

namespace Playback

/-- One step of a path: a key of an object, an index of a list, or the name of an alternative. -/
inductive PathStep where
  | key (name : Text)
  | index (position : Nat)
  deriving DecidableEq

/-- The step as it stands in a path. -/
def PathStep.text : PathStep → Text
  | .key name => name
  | .index position => Text.ofNat position

/-- Why a value is not what its place asks for. -/
inductive Mismatch where
  | missing
  | text
  /-- A text with a surrogate that stands alone, where that has no meaning. -/
  | unicode
  | integer
  | integerText
  | fraction
  | infinite
  | oversized
  | number
  | numberText
  | flag
  | flagText
  | list
  | dictionary
  /-- Neither an object nor anything else that the named part of a record is read from. -/
  | part (name : Text)
  /-- None of the browsers that can be launched. -/
  | browser
  deriving DecidableEq

/-- The mismatch in words. -/
def Mismatch.message : Mismatch → Text
  | .missing => "Field required"
  | .text => "Input should be a valid string"
  | .unicode => "Input should be a valid string, unable to parse raw data as a unicode string"
  | .integer => "Input should be a valid integer"
  | .integerText => "Input should be a valid integer, unable to parse string as an integer"
  | .fraction => "Input should be a valid integer, got a number with a fractional part"
  | .infinite => "Input should be a finite number"
  | .oversized => "Unable to parse input string as an integer, exceeded maximum size"
  | .number => "Input should be a valid number"
  | .numberText => "Input should be a valid number, unable to parse string as a number"
  | .flag => "Input should be a valid boolean"
  | .flagText => "Input should be a valid boolean, unable to interpret input"
  | .list => "Input should be a valid list"
  | .dictionary => "Input should be a valid dictionary"
  | .part name => "Input should be a valid dictionary or instance of " ++ name
  | .browser => "Input should be 'chromium', 'firefox' or 'webkit'"

/-- A mismatch and the path to its place. -/
structure Problem where
  path : List PathStep
  mismatch : Mismatch
  deriving DecidableEq

/-- The path of the value as a whole. -/
def rootPath : Text := "<root>"

/-- The path, with points between its steps, and the mismatch in words. -/
def Problem.text (problem : Problem) : Text :=
  let path := Text.joined "." (problem.path.map PathStep.text)
  (if path.isEmpty then rootPath else path) ++ ": " ++ problem.mismatch.message

/-- The problem moved below `step`. -/
def Problem.under (step : PathStep) (problem : Problem) : Problem :=
  { problem with path := step :: problem.path }

/-- A value, or the problems in its way. -/
inductive Checked (α : Type) where
  | valid (value : α)
  | invalid (problems : List Problem)

namespace Checked

variable {α β : Type}

/-- A mismatch at the place itself. -/
def mismatch (m : Mismatch) : Checked α := .invalid [⟨[], m⟩]

/-- Both values, or the problems of both sides. -/
def both (a : Checked α) (b : Checked β) : Checked (α × β) :=
  match a, b with
  | .valid a, .valid b => .valid (a, b)
  | .valid _, .invalid problems => .invalid problems
  | .invalid problems, .valid _ => .invalid problems
  | .invalid problems, .invalid later => .invalid (problems ++ later)

/-- A function of the value. -/
def map (f : α → β) : Checked α → Checked β
  | .valid a => .valid (f a)
  | .invalid problems => .invalid problems

instance : Functor Checked := ⟨map, fun a => map fun _ => a⟩

instance : Applicative Checked where
  pure := .valid
  seq f a := (both f (a ())).map fun (f, a) => f a

/-- The same with every problem moved below `step`. -/
def under (step : PathStep) : Checked α → Checked α
  | .valid a => .valid a
  | .invalid problems => .invalid (problems.map (Problem.under step))

/-- The problems of two alternatives that both fail, each below the alternative's name. -/
def eitherOf (first : Text) (problems : List Problem) (second : Text) (later : List Problem) :
    Checked α :=
  .invalid (problems.map (Problem.under (.key first)) ++ later.map (Problem.under (.key second)))

/-- The value, if there are no problems. -/
def value? : Checked α → Option α
  | .valid a => some a
  | .invalid _ => none

/-- The checked items of a list from a position on. -/
def listFrom (read : β → Checked α) (position : Nat) : List β → Checked (List α)
  | [] => .valid []
  | item :: items =>
    List.cons <$> (read item).under (.index position) <*> listFrom read (position + 1) items

/-- The checked items of a list. -/
def list (read : β → Checked α) (items : List β) : Checked (List α) := listFrom read 0 items

end Checked

end Playback
