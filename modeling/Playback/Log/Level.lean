import Playback.Text.Basic

/-!
# Levels of a log

* `Level.named`: the level of a name in either case; a name without one stands for `Level.info`.
* `Level.Fault`: why a name that belongs to the log is not that of a level, and
  `Level.Fault.message` the same in words.
-/

namespace Playback

/-- How severe a message has to be to be logged. -/
abbrev Level := Nat

namespace Level

/-- The level of a logger that has none of its own. -/
def unset : Level := 0

/-- The level of what only a search for a fault asks for. -/
def debug : Level := 10

/-- The level of what is of interest. -/
def info : Level := 20

/-- The level of what may not be meant so. -/
def warning : Level := 30

/-- The levels by name. -/
def names : List (Text × Level) :=
  [("CRITICAL", 50), ("FATAL", 50), ("ERROR", 40), ("WARN", warning), ("WARNING", warning),
    ("INFO", info), ("DEBUG", debug), ("NOTSET", unset)]

/-- The layout of a message. -/
def layout : Text := "%(levelname)s:%(name)s:%(message)s"

/-- The styles that a layout can be written in: the mark of its fields, the style's name, and the
layout of a message in it. -/
def styles : List (Text × Text × Text) :=
  [("%", "PercentStyle", layout),
    ("\x7b", "StrFormatStyle", "\x7blevelname\x7d:\x7bname\x7d:\x7bmessage\x7d"),
    ("$", "StringTemplateStyle", "$\x7blevelname\x7d:$\x7bname\x7d:$\x7bmessage\x7d")]

/-- The styles in one text. -/
def stylesText : Text :=
  let entries : List Text := styles.map fun (mark, name, layout) =>
    "'" ++ mark ++ "': (<class 'logging." ++ name ++ "'>, '" ++ layout ++ "')"
  "\x7b" ++ Text.joined ", " entries ++ "\x7d"

/-- The letters other than small ASCII ones whose capitals are ASCII letters, and those. -/
def capitals : List (CodePoint × Text) :=
  [(.char 'ı', "I"), (.char 'ſ', "S"), (.char 'ß', "SS"), (.char 'ﬀ', "FF"), (.char 'ﬁ', "FI"),
    (.char 'ﬂ', "FL"), (.char 'ﬃ', "FFI"), (.char 'ﬄ', "FFL"), (.char 'ﬅ', "ST"),
    (.char 'ﬆ', "ST")]

/-- The capitals of a code point, if they are ASCII; else the code point. -/
def capital (p : CodePoint) : Text :=
  match p, List.lookup p capitals with
  | _, some capital => capital
  | .char c, none => [.char c.toUpper]
  | .surrogate _, none => [p]

/-- Why a name that belongs to the log is not that of a level. -/
inductive Fault where
  /-- It stands for a text that names no level. -/
  | unknown (value : Text)
  /-- It stands for something that is neither a number nor a text. -/
  | otherKind (value : Text)
  deriving DecidableEq

/-- The fault in words. -/
def Fault.message : Fault → Text
  | .unknown value => "Unknown level: '" ++ value ++ "'"
  | .otherKind value => "Level not an integer or a valid string: " ++ value

/-- The names that belong to the log and stand for something else than a level. -/
def otherNames : List (Text × Fault) :=
  [("BASIC_FORMAT", .unknown layout), ("_STYLES", .otherKind stylesText)]

/-- The level of a name in either case. -/
def named (name : Text) : Except Fault Level :=
  let name := name.flatMap capital
  match List.lookup name otherNames with
  | some fault => .error fault
  | none => .ok ((List.lookup name names).getD info)

end Level

end Playback
