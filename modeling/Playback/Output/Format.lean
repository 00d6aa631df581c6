import Playback.Text.Basic

/-!
# Output formats

A program is written as its body alone, as a script that runs by itself, or as a test.
-/

namespace Playback

/-- A form that the program can be written in. -/
inductive OutputFormat where
  | body
  | script
  | test
  deriving DecidableEq

namespace OutputFormat

/-- All formats, in the order of their names. -/
def all : List OutputFormat := [.body, .script, .test]

/-- The name of a format. -/
def name : OutputFormat → Text
  | .body => "body"
  | .script => "script"
  | .test => "test"

/-- The format of a name. -/
def ofName? (name : Text) : Option OutputFormat := all.find? (·.name = name)

/-- The names of all formats, for a message. -/
def names : Text := Text.joined ", " (all.map name)

end OutputFormat

end Playback
