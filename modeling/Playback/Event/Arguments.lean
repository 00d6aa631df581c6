import Playback.Program.Expression
import Playback.Recording.Event

/-!
# Arguments of actions

* `ModifierKey`: a key that is held down during an action; `ModifierKey.held` are the keys that the
  bits of a number stand for.
* `Position.expression`, `Values.expression`, `Expression.textOrEmpty`: literals of recorded values.
-/

namespace Playback

/-- A key that is held down during an action. -/
inductive ModifierKey where
  | alt
  | controlOrMeta
  | metaKey
  | shift
  deriving DecidableEq

namespace ModifierKey

/-- All modifier keys, in the order of their bits. -/
def all : List ModifierKey := [.alt, .controlOrMeta, .metaKey, .shift]

/-- The name of a key. -/
def name : ModifierKey → Text
  | .alt => "Alt"
  | .controlOrMeta => "ControlOrMeta"
  | .metaKey => "Meta"
  | .shift => "Shift"

/-- The place of the bit that stands for a key. -/
def bit : ModifierKey → Nat
  | .alt => 0
  | .controlOrMeta => 1
  | .metaKey => 2
  | .shift => 3

/-- The keys whose bits are set; none for a number that is not positive. -/
def held : Int → List ModifierKey
  | .ofNat n => all.filter fun key => n.testBit key.bit
  | .negSucc _ => []

end ModifierKey

/-- The names of the keys that are held down during an event. -/
def Event.heldKeys (event : Event) : List Text :=
  (ModifierKey.held (event.modifiers.getD 0)).map ModifierKey.name

/-- The literal of a position. -/
def Position.expression (position : Position) : Expression :=
  .object [("x", .number position.x), ("y", .number position.y)]

/-- The literal of one value or of several; a list of one value is that value. -/
def Values.expression : Values → Expression
  | .one value => .text value
  | .many [value] => .text value
  | .many values => .list (values.map .text)

/-- The literal of a text, empty if there is none. -/
def Expression.textOrEmpty (text : Option Text) : Expression := .text (text.getD [])

end Playback
