import Playback.Schema.Member

/-!
# The events of a recording

Every record behind the header is one event: an interaction with a page, or an assertion about it.

* `Signal`: something that the action set off, such as a dialog.
* `Position`: a point within the target.
* `Values`: one value, or a list of values.
* `Event`: an event; what its record holds besides the known fields is kept as it is.
* `Event.read` reads it from the members of the record. `Event.dump` writes it back, and
  `Event.record` is what errors show of it: the same without `null`.
-/

namespace Playback

/-- Something that an action set off. -/
structure Signal where
  name : Text
  extras : Json.Members

namespace Signal

/-- The field of the name. -/
def nameField : Field := { name := "name" }

/-- The signal that the members of an object give. -/
def read (members : Json.Members) : Checked Signal :=
  members.withUnicodeNames <|
    Signal.mk
      <$> members.required nameField Json.readText
      <*> .valid (members.extras [nameField])

/-- The signal as members of an object. -/
def toMembers (signal : Signal) : Json.Members :=
  (nameField.name, .text signal.name) :: signal.extras

end Signal

/-- A point within the target of an action. -/
structure Position where
  x : Number
  y : Number
  extras : Json.Members

namespace Position

/-- The field of `x`. -/
def xField : Field := { name := "x" }

/-- The field of `y`. -/
def yField : Field := { name := "y" }

/-- The position that the members of an object give. -/
def read (members : Json.Members) : Checked Position :=
  members.withUnicodeNames <|
    Position.mk
      <$> members.required xField Json.readNumber
      <*> members.required yField Json.readNumber
      <*> .valid (members.extras [xField, yField])

/-- The position as members of an object. -/
def toMembers (position : Position) : Json.Members :=
  (xField.name, .number position.x) :: (yField.name, .number position.y) :: position.extras

end Position

/-- One value, or a list of values. -/
inductive Values where
  | one (value : Text)
  | many (values : List Text)
  deriving DecidableEq

namespace Values

/-- A list of texts, or one text. A value that is neither has the problems of both. -/
def read : Json → Checked Values
  | .text value => .valid (.one value)
  | value =>
    match Json.readList Json.readText value with
    | .valid values => .valid (.many values)
    | .invalid problems => .eitherOf "list[str]" problems "str" [⟨[], .text⟩]

/-- The values as JSON. -/
def toJson : Values → Json
  | .one value => .text value
  | .many values => .list (values.map .text)

end Values

/-- A recorded interaction or assertion. -/
structure Event where
  name : Text
  selector : Option Text
  locator : Json
  url : Option Text
  text : Option Text
  checked : Option Bool
  clickCount : Option Int
  substring : Option Bool
  key : Option Text
  modifiers : Option Int
  button : Option Text
  position : Option Position
  options : Option Values
  files : Option Values
  value : Option Text
  snapshot : Option Text
  signals : List Signal
  pageAlias : Text
  framePath : List Text
  extras : Json.Members

namespace Event

/-- The field of the name. -/
def nameField : Field := { name := "name" }

/-- The field of the selector. -/
def selectorField : Field := { name := "selector" }

/-- The field of the description of the target. -/
def locatorField : Field := { name := "locator" }

/-- The field of the address. -/
def urlField : Field := { name := "url" }

/-- The field of the text. -/
def textField : Field := { name := "text" }

/-- The field of the state that a box is checked for. -/
def checkedField : Field := { name := "checked" }

/-- The field of the number of clicks. -/
def clickCountField : Field := ⟨"clickCount", some "click_count"⟩

/-- The field that says whether a part of the text is enough. -/
def substringField : Field := { name := "substring" }

/-- The field of the key. -/
def keyField : Field := { name := "key" }

/-- The field of the modifier keys. -/
def modifiersField : Field := { name := "modifiers" }

/-- The field of the mouse button. -/
def buttonField : Field := { name := "button" }

/-- The field of the position. -/
def positionField : Field := { name := "position" }

/-- The field of the options that are selected. -/
def optionsField : Field := { name := "options" }

/-- The field of the files that are chosen. -/
def filesField : Field := { name := "files" }

/-- The field of the value. -/
def valueField : Field := { name := "value" }

/-- The field of the snapshot. -/
def snapshotField : Field := { name := "snapshot" }

/-- The field of the signals. -/
def signalsField : Field := { name := "signals" }

/-- The field of the page. -/
def pageField : Field := ⟨"pageAlias", some "page_alias"⟩

/-- The field of the frames. -/
def framesField : Field := ⟨"framePath", some "frame_path"⟩

/-- The fields of an event, in the order in which their problems are reported. -/
def fields : List Field :=
  [nameField, selectorField, locatorField, urlField, textField, checkedField, clickCountField,
    substringField, keyField, modifiersField, buttonField, positionField, optionsField, filesField,
    valueField, snapshotField, signalsField, pageField, framesField]

/-- The alias of the page that a recording starts with. -/
def primaryPage : Text := "page"

/-- The event that the members of a record give. -/
def read (members : Json.Members) : Checked Event :=
  members.withUnicodeNames <|
    Event.mk
      <$> members.required nameField Json.readText
      <*> members.nullable selectorField Json.readText
      <*> members.optional locatorField .null .valid
      <*> members.nullable urlField Json.readText
      <*> members.nullable textField Json.readText
      <*> members.nullable checkedField Json.readFlag
      <*> members.nullable clickCountField Json.readInteger
      <*> members.nullable substringField Json.readFlag
      <*> members.nullable keyField Json.readText
      <*> members.nullable modifiersField Json.readInteger
      <*> members.nullable buttonField Json.readText
      <*> members.nullable positionField (Json.readPart "Position" Position.read)
      <*> members.nullable optionsField Values.read
      <*> members.nullable filesField Values.read
      <*> members.nullable valueField Json.readText
      <*> members.nullable snapshotField Json.readText
      <*> members.optional signalsField [] (Json.readList (Json.readPart "Signal" Signal.read))
      <*> members.optional pageField primaryPage Json.readText
      <*> members.optional framesField [] (Json.readList Json.readText)
      <*> .valid (members.extras fields)

/-- The event as members of an object; `part` is applied to the members of the event, of its
position and of its signals. -/
def toMembers (part : Json.Members → Json.Members) (event : Event) : Json.Members :=
  part <|
    (nameField.name, .text event.name) ::
    (selectorField.name, .ofOption .text event.selector) ::
    (locatorField.name, event.locator) ::
    (urlField.name, .ofOption .text event.url) ::
    (textField.name, .ofOption .text event.text) ::
    (checkedField.name, .ofOption .bool event.checked) ::
    (clickCountField.name, .ofOption (.number ∘ .int) event.clickCount) ::
    (substringField.name, .ofOption .bool event.substring) ::
    (keyField.name, .ofOption .text event.key) ::
    (modifiersField.name, .ofOption (.number ∘ .int) event.modifiers) ::
    (buttonField.name, .ofOption .text event.button) ::
    (positionField.name, .ofOption (.object ∘ part ∘ Position.toMembers) event.position) ::
    (optionsField.name, .ofOption Values.toJson event.options) ::
    (filesField.name, .ofOption Values.toJson event.files) ::
    (valueField.name, .ofOption .text event.value) ::
    (snapshotField.name, .ofOption .text event.snapshot) ::
    (signalsField.name, .list (event.signals.map (.object ∘ part ∘ Signal.toMembers))) ::
    (pageField.name, .text event.pageAlias) ::
    (framesField.name, .list (event.framePath.map .text)) :: event.extras

/-- The event as members of an object, with `null` for what is missing. -/
def dump (event : Event) : Json.Members := event.toMembers id

/-- The event as members of an object, without `null` among the members of a record. -/
def record (event : Event) : Json.Members := event.toMembers Json.Members.withoutNull

end Event

end Playback
