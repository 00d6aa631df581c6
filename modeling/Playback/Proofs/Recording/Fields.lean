import Playback.Proofs.Schema.Checked
import Playback.Recording.Event
import Playback.Recording.Header

/-!
# The fields of records

A record is read field by field. For each kind of record, `IsReadFrom` says which member each field
of the value is read from, and `read_eq_valid_iff` that this is all that reading asks for, if all
names of the record are Unicode text.
-/

namespace Playback

open Json.Members (withUnicodeNames_eq_valid_iff)

/-- All names of the members are Unicode text. -/
def Json.Members.HaveUnicodeNames (members : Json.Members) : Prop :=
  ∀ member ∈ members, member.1.isUnicode

variable {members : Json.Members}

/-- The fields of a signal, read from the members of an object. -/
structure Signal.IsReadFrom (signal : Signal) (members : Json.Members) : Prop where
  name : members.required nameField Json.readText = .valid signal.name
  extras : signal.extras = members.extras [nameField]

theorem Signal.read_eq_valid_iff {signal : Signal} :
    read members = .valid signal ↔ members.HaveUnicodeNames ∧ signal.IsReadFrom members := by
  rw [read, withUnicodeNames_eq_valid_iff]
  refine and_congr_right fun _ => ⟨fun h => ?_, fun h => ?_⟩
  · obtain ⟨_, _, h1, ⟨⟩, rfl⟩ := Checked.seq_eq_valid_iff.1 h
    obtain ⟨_, hname, rfl⟩ := Checked.map_eq_valid_iff.1 h1
    exact ⟨hname, rfl⟩
  · rw [h.name, ← h.extras]
    rfl

/-- The fields of a position, read from the members of an object. -/
structure Position.IsReadFrom (position : Position) (members : Json.Members) : Prop where
  x : members.required xField Json.readNumber = .valid position.x
  y : members.required yField Json.readNumber = .valid position.y
  extras : position.extras = members.extras [xField, yField]

theorem Position.read_eq_valid_iff {position : Position} :
    read members = .valid position ↔ members.HaveUnicodeNames ∧ position.IsReadFrom members := by
  rw [read, withUnicodeNames_eq_valid_iff]
  refine and_congr_right fun _ => ⟨fun h => ?_, fun h => ?_⟩
  · obtain ⟨_, _, h1, ⟨⟩, rfl⟩ := Checked.seq_eq_valid_iff.1 h
    obtain ⟨_, _, h2, hy, rfl⟩ := Checked.seq_eq_valid_iff.1 h1
    obtain ⟨_, hx, rfl⟩ := Checked.map_eq_valid_iff.1 h2
    exact ⟨hx, hy, rfl⟩
  · rw [h.x, h.y, ← h.extras]
    rfl

/-- The fields of launch options, read from the members of an object. -/
structure LaunchOptions.IsReadFrom (options : LaunchOptions) (members : Json.Members) : Prop where
  headless : members.optional headlessField (some true) (Json.readNullable Json.readFlag) =
    .valid options.headless
  extras : options.extras = members.extras [headlessField]

theorem LaunchOptions.read_eq_valid_iff {options : LaunchOptions} :
    read members = .valid options ↔ members.HaveUnicodeNames ∧ options.IsReadFrom members := by
  rw [read, withUnicodeNames_eq_valid_iff]
  refine and_congr_right fun _ => ⟨fun h => ?_, fun h => ?_⟩
  · obtain ⟨_, _, h1, ⟨⟩, rfl⟩ := Checked.seq_eq_valid_iff.1 h
    obtain ⟨_, hheadless, rfl⟩ := Checked.map_eq_valid_iff.1 h1
    exact ⟨hheadless, rfl⟩
  · rw [h.headless, ← h.extras]
    rfl

/-- The fields of a header, in the order in which they are read. -/
def Header.fields : List Field := [browserField, launchField, contextField]

/-- The fields of a header, read from the members of a record. -/
structure Header.IsReadFrom (header : Header) (members : Json.Members) : Prop where
  browser : members.optional browserField .chromium Browser.read = .valid header.browser
  launchOptions : members.optional launchField .absent
    (Json.readPart "LaunchOptions" LaunchOptions.read) = .valid header.launchOptions
  contextOptions : members.optional contextField [] readContext = .valid header.contextOptions
  extras : header.extras = members.extras fields

theorem Header.read_eq_valid_iff {header : Header} :
    read members = .valid header ↔ members.HaveUnicodeNames ∧ header.IsReadFrom members := by
  rw [read, withUnicodeNames_eq_valid_iff]
  refine and_congr_right fun _ => ⟨fun h => ?_, fun h => ?_⟩
  · obtain ⟨_, _, h1, ⟨⟩, rfl⟩ := Checked.seq_eq_valid_iff.1 h
    obtain ⟨_, _, h2, hcontext, rfl⟩ := Checked.seq_eq_valid_iff.1 h1
    obtain ⟨_, _, h3, hlaunch, rfl⟩ := Checked.seq_eq_valid_iff.1 h2
    obtain ⟨_, hbrowser, rfl⟩ := Checked.map_eq_valid_iff.1 h3
    exact ⟨hbrowser, hlaunch, hcontext, rfl⟩
  · rw [h.browser, h.launchOptions, h.contextOptions]
    show Checked.valid _ = _
    exact congrArg Checked.valid (by rw [← fields, ← h.extras])

/-- The fields of an event, read from the members of a record. -/
structure Event.IsReadFrom (event : Event) (members : Json.Members) : Prop where
  name : members.required nameField Json.readText = .valid event.name
  selector : members.nullable selectorField Json.readText = .valid event.selector
  locator : members.optional locatorField .null .valid = .valid event.locator
  url : members.nullable urlField Json.readText = .valid event.url
  text : members.nullable textField Json.readText = .valid event.text
  checked : members.nullable checkedField Json.readFlag = .valid event.checked
  clickCount : members.nullable clickCountField Json.readInteger = .valid event.clickCount
  substring : members.nullable substringField Json.readFlag = .valid event.substring
  key : members.nullable keyField Json.readText = .valid event.key
  modifiers : members.nullable modifiersField Json.readInteger = .valid event.modifiers
  button : members.nullable buttonField Json.readText = .valid event.button
  position : members.nullable positionField (Json.readPart "Position" Position.read) =
    .valid event.position
  options : members.nullable optionsField Values.read = .valid event.options
  files : members.nullable filesField Values.read = .valid event.files
  value : members.nullable valueField Json.readText = .valid event.value
  snapshot : members.nullable snapshotField Json.readText = .valid event.snapshot
  signals : members.optional signalsField []
    (Json.readList (Json.readPart "Signal" Signal.read)) = .valid event.signals
  pageAlias : members.optional pageField primaryPage Json.readText = .valid event.pageAlias
  framePath : members.optional framesField [] (Json.readList Json.readText) =
    .valid event.framePath
  extras : event.extras = members.extras fields

theorem Event.read_eq_valid_iff {event : Event} :
    read members = .valid event ↔ members.HaveUnicodeNames ∧ event.IsReadFrom members := by
  rw [read, withUnicodeNames_eq_valid_iff]
  refine and_congr_right fun _ => ⟨fun h => ?_, fun h => ?_⟩
  · obtain ⟨_, _, h1, ⟨⟩, rfl⟩ := Checked.seq_eq_valid_iff.1 h
    obtain ⟨_, _, h2, hframes, rfl⟩ := Checked.seq_eq_valid_iff.1 h1
    obtain ⟨_, _, h3, hpage, rfl⟩ := Checked.seq_eq_valid_iff.1 h2
    obtain ⟨_, _, h4, hsignals, rfl⟩ := Checked.seq_eq_valid_iff.1 h3
    obtain ⟨_, _, h5, hsnapshot, rfl⟩ := Checked.seq_eq_valid_iff.1 h4
    obtain ⟨_, _, h6, hvalue, rfl⟩ := Checked.seq_eq_valid_iff.1 h5
    obtain ⟨_, _, h7, hfiles, rfl⟩ := Checked.seq_eq_valid_iff.1 h6
    obtain ⟨_, _, h8, hoptions, rfl⟩ := Checked.seq_eq_valid_iff.1 h7
    obtain ⟨_, _, h9, hposition, rfl⟩ := Checked.seq_eq_valid_iff.1 h8
    obtain ⟨_, _, h10, hbutton, rfl⟩ := Checked.seq_eq_valid_iff.1 h9
    obtain ⟨_, _, h11, hmodifiers, rfl⟩ := Checked.seq_eq_valid_iff.1 h10
    obtain ⟨_, _, h12, hkey, rfl⟩ := Checked.seq_eq_valid_iff.1 h11
    obtain ⟨_, _, h13, hsubstring, rfl⟩ := Checked.seq_eq_valid_iff.1 h12
    obtain ⟨_, _, h14, hclicks, rfl⟩ := Checked.seq_eq_valid_iff.1 h13
    obtain ⟨_, _, h15, hchecked, rfl⟩ := Checked.seq_eq_valid_iff.1 h14
    obtain ⟨_, _, h16, htext, rfl⟩ := Checked.seq_eq_valid_iff.1 h15
    obtain ⟨_, _, h17, hurl, rfl⟩ := Checked.seq_eq_valid_iff.1 h16
    obtain ⟨_, _, h18, hlocator, rfl⟩ := Checked.seq_eq_valid_iff.1 h17
    obtain ⟨_, _, h19, hselector, rfl⟩ := Checked.seq_eq_valid_iff.1 h18
    obtain ⟨_, hname, rfl⟩ := Checked.map_eq_valid_iff.1 h19
    exact ⟨hname, hselector, hlocator, hurl, htext, hchecked, hclicks, hsubstring, hkey,
      hmodifiers, hbutton, hposition, hoptions, hfiles, hvalue, hsnapshot, hsignals, hpage,
      hframes, rfl⟩
  · rw [h.name, h.selector, h.locator, h.url, h.text, h.checked, h.clickCount, h.substring, h.key,
      h.modifiers, h.button, h.position, h.options, h.files, h.value, h.snapshot, h.signals,
      h.pageAlias, h.framePath, ← h.extras]
    rfl

end Playback
