import Mathlib.Data.List.Basic
import Playback.Event.Snippet
import Playback.Proofs.Assoc
import Playback.Proofs.Except
import Playback.Proofs.Recording.Fields

/-!
# Records that are read back

Whatever a record was written like, the value that is read of it is written in one way: every field
by its own name, in its plain form, and behind the fields what is left over. Reading that gives the
value again.

* `Json.Members.extras_written`: behind fields that are written by their own names, what is left
  over is left over again.
* `Json.readNullable_ofOption`, `Json.readList_map`: a missing value and a list are read back if
  what is in them is.
* `Position.read_toMembers`, `Signal.read_toMembers`, `LaunchOptions.read_toMembers`: the parts of a
  record are read back.
* `Header.read_toMembers`, `Event.read_dump`: so are the records.
* `read_written_of_read`: both, and the code of the event that is read back.
-/

namespace Playback

namespace Json

namespace Members

variable {members : Members} {fields : List Field}

/-- A member that has the name of a field is not left over. -/
theorem name_not_mem_of_mem_extras {member : Text × Json} (h : member ∈ members.extras fields) :
    member.1 ∉ fields.map Field.name := by
  rw [extras, List.mem_filter] at h
  obtain ⟨hmem, hrest⟩ := h
  rw [List.mem_map]
  rintro ⟨field, hfield, hname⟩
  obtain ⟨value, hvalue⟩ : ∃ value, members.get? field.name = some value :=
    exists_lookup_iff_mem.2 (hname ▸ List.mem_map_of_mem hmem)
  have hread : member.1 ∈ fields.filterMap fun field => (members.entry? field).map Prod.fst := by
    refine List.mem_filterMap.2 ⟨field, hfield, ?_⟩
    unfold entry?
    rw [hvalue, ← hname]
    rfl
  simp only [List.contains_iff_mem.2 hread, Bool.not_true, Bool.false_eq_true] at hrest

/-- Behind fields that are written by their own names, what is left over is left over again. -/
theorem extras_written {own : Members} (hown : own.map Prod.fst = fields.map Field.name) :
    extras (own ++ members.extras fields) fields = members.extras fields := by
  have hentry (field : Field) (hfield : field ∈ fields) :
      (Members.entry? (own ++ members.extras fields) field).map Prod.fst = some field.name := by
    obtain ⟨value, hvalue⟩ : ∃ value,
        (own ++ members.extras fields).get? field.name = some value := by
      refine exists_lookup_iff_mem.2 ?_
      rw [List.map_append, hown]
      exact List.mem_append_left _ (List.mem_map_of_mem hfield)
    unfold entry?
    rw [hvalue]
    rfl
  have hnames : (fields.filterMap fun field =>
      (Members.entry? (own ++ members.extras fields) field).map Prod.fst) = fields.map Field.name :=
    List.filterMap_eq_map_iff_forall_eq_some.2 hentry
  rw [extras, hnames, List.filter_append, List.filter_eq_nil_iff.2, List.nil_append,
    List.filter_eq_self.2]
  · intro member hmember
    simpa using name_not_mem_of_mem_extras hmember
  · intro member hmember
    simp [← hown, List.mem_map_of_mem hmember]

/-- The names that are written are Unicode text if those of the fields and of the members are. -/
theorem HaveUnicodeNames.written (h : members.HaveUnicodeNames) {own : Members}
    (hown : own.map Prod.fst = fields.map Field.name)
    (hfields : ∀ field ∈ fields, field.name.isUnicode) :
    HaveUnicodeNames (own ++ members.extras fields) := by
  intro member hmember
  rcases List.mem_append.1 hmember with hmember | hmember
  · obtain ⟨field, hfield, hname⟩ := List.mem_map.1 (hown ▸ List.mem_map_of_mem hmember)
    exact hname ▸ hfields field hfield
  · exact h member (List.mem_of_mem_filter hmember)

end Members

open Members (optional_eq_valid_iff)

section Readers

variable {α : Type} {read : Json → Checked α} {write : α → Json}

/-- A value that may be missing is read back if the value is. -/
theorem readNullable_ofOption {a? : Option α} (h : ∀ a ∈ a?, read (write a) = .valid a)
    (hnull : ∀ a, (write a).isNull = false) :
    readNullable read (.ofOption write a?) = .valid a? := by
  cases a? with
  | none => rfl
  | some a =>
    specialize h a rfl
    specialize hnull a
    show readNullable read (write a) = _
    cases hvalue : write a with
    | null => simp [hvalue, isNull] at hnull
    | bool | number | text | list | object =>
      rw [hvalue] at h
      rw [readNullable, h]
      · rfl
      · intro hother
        cases hother

/-- A field that may be missing is read back if every value of it is. -/
theorem nullable_of_written {members : Members} {field : Field} {name : Text} {a? : Option α}
    (hentry : members.entry? field = some (name, .ofOption write a?))
    (h : ∀ a, read (write a) = .valid a) (hnull : ∀ a, (write a).isNull = false) :
    members.nullable field read = .valid a? :=
  optional_eq_valid_iff.2 (.inr ⟨_, hentry, readNullable_ofOption (fun a _ => h a) hnull⟩)

/-- A list is read back if each of its items is. -/
theorem readList_map {items : List α} (h : ∀ a ∈ items, read (write a) = .valid a) :
    readList read (.list (items.map write)) = .valid items := by
  refine readList_eq_valid_iff.2 ⟨_, rfl, List.forall₂_map_left_iff.2 ?_⟩
  exact List.forall₂_same.2 h

theorem exists_read_of_readNullable {a : α} {value : Json}
    (h : readNullable read value = .valid (some a)) : ∃ value, read value = .valid a := by
  unfold readNullable at h
  split at h
  · cases h
  · obtain ⟨_, hread, ⟨⟩⟩ := Checked.map_eq_valid_iff.1 h
    exact ⟨_, hread⟩

/-- Every item of a list was read. -/
theorem exists_read_of_readList {items : List α} {value : Json}
    (h : readList read value = .valid items) {a : α} (ha : a ∈ items) :
    ∃ value, read value = .valid a := by
  obtain ⟨values, -, hread⟩ := readList_eq_valid_iff.1 h
  have hall : ∀ a ∈ items, ∃ value, read value = .valid a :=
    forall_right_of_forall₂ hread fun value _ hvalue => ⟨value, hvalue⟩
  exact hall a ha

theorem exists_read_of_readPart {name : Text} {readMembers : Members → Checked α} {a : α}
    {value : Json} (h : readPart name readMembers value = .valid a) :
    ∃ members, readMembers members = .valid a := by
  cases value with
  | object members => exact ⟨members, h⟩
  | null | bool | number | text | list => cases h

end Readers

end Json

open Json (readNullable_ofOption readList_map exists_read_of_readNullable exists_read_of_readList
  exists_read_of_readPart nullable_of_written)
open Json.Members (required_eq_valid_iff optional_eq_valid_iff extras_written)

/-! ## The parts of records -/

theorem Values.read_toJson (values : Values) : read values.toJson = .valid values := by
  cases values with
  | one value => rfl
  | many values =>
    have hread : Json.readList Json.readText (.list (values.map .text)) = .valid values :=
      readList_map fun _ _ => rfl
    rw [toJson, read, hread]
    exact nofun

theorem Browser.read_name (browser : Browser) : read (.text browser.name) = .valid browser := by
  cases browser <;> rfl

variable {members : Json.Members}

theorem Position.read_toMembers {position : Position} (h : read members = .valid position) :
    read position.toMembers = .valid position := by
  obtain ⟨hnames, h⟩ := read_eq_valid_iff.1 h
  have hown : (position.toMembers.take 2).map Prod.fst = [xField, yField].map Field.name := rfl
  have hwritten : position.toMembers =
      position.toMembers.take 2 ++ members.extras [xField, yField] :=
    h.extras ▸ rfl
  refine read_eq_valid_iff.2 ⟨hwritten ▸ hnames.written hown (by decide), ?_⟩
  exact ⟨required_eq_valid_iff.2 ⟨_, rfl, rfl⟩, required_eq_valid_iff.2 ⟨_, rfl, rfl⟩,
    h.extras.trans (hwritten ▸ (extras_written hown).symm)⟩

theorem Signal.read_toMembers {signal : Signal} (h : read members = .valid signal) :
    read signal.toMembers = .valid signal := by
  obtain ⟨hnames, h⟩ := read_eq_valid_iff.1 h
  have hown : (signal.toMembers.take 1).map Prod.fst = [nameField].map Field.name := rfl
  have hwritten : signal.toMembers = signal.toMembers.take 1 ++ members.extras [nameField] :=
    h.extras ▸ rfl
  refine read_eq_valid_iff.2 ⟨hwritten ▸ hnames.written hown (by decide), ?_⟩
  exact ⟨required_eq_valid_iff.2 ⟨_, rfl, rfl⟩,
    h.extras.trans (hwritten ▸ (extras_written hown).symm)⟩

theorem LaunchOptions.read_toMembers {options : LaunchOptions}
    (h : read members = .valid options) : read options.toMembers = .valid options := by
  obtain ⟨hnames, h⟩ := read_eq_valid_iff.1 h
  have hown : (options.toMembers.take 1).map Prod.fst = [headlessField].map Field.name := rfl
  have hwritten : options.toMembers = options.toMembers.take 1 ++ members.extras [headlessField] :=
    h.extras ▸ rfl
  have hheadless : Json.readNullable Json.readFlag (.ofOption .bool options.headless) =
      .valid options.headless :=
    readNullable_ofOption (fun _ _ => rfl) fun _ => rfl
  refine read_eq_valid_iff.2 ⟨hwritten ▸ hnames.written hown (by decide), ?_⟩
  exact ⟨optional_eq_valid_iff.2 (.inr ⟨_, rfl, hheadless⟩),
    h.extras.trans (hwritten ▸ (extras_written hown).symm)⟩

/-! ## Records -/

/-- The launch options of a header were read. Without any they are those of an empty object. -/
theorem Header.IsReadFrom.exists_launchOptions {header : Header} (h : header.IsReadFrom members) :
    ∃ options, LaunchOptions.read options = .valid header.launchOptions := by
  rcases optional_eq_valid_iff.1 h.launchOptions with ⟨-, habsent⟩ | ⟨_, -, hread⟩
  · exact ⟨[], habsent ▸ rfl⟩
  · exact exists_read_of_readPart hread

/-- A position that an event has was read. -/
theorem Event.IsReadFrom.exists_position {event : Event} (h : event.IsReadFrom members)
    {position : Position} (hposition : event.position = some position) :
    ∃ members, Position.read members = .valid position := by
  rcases optional_eq_valid_iff.1 (hposition ▸ h.position) with ⟨-, ⟨⟩⟩ | ⟨_, -, hread⟩
  obtain ⟨_, hread⟩ := exists_read_of_readNullable hread
  exact exists_read_of_readPart hread

/-- Every signal of an event was read. -/
theorem Event.IsReadFrom.exists_signal {event : Event} (h : event.IsReadFrom members)
    {signal : Signal} (hsignal : signal ∈ event.signals) :
    ∃ members, Signal.read members = .valid signal := by
  rcases optional_eq_valid_iff.1 h.signals with ⟨-, habsent⟩ | ⟨_, -, hread⟩
  · rw [← habsent] at hsignal
    cases hsignal
  · obtain ⟨_, hread⟩ := exists_read_of_readList hread hsignal
    exact exists_read_of_readPart hread

theorem Header.read_toMembers {header : Header} (h : read members = .valid header) :
    read header.toMembers = .valid header := by
  obtain ⟨hnames, h⟩ := read_eq_valid_iff.1 h
  have hown : (header.toMembers.take 3).map Prod.fst = fields.map Field.name := rfl
  have hwritten : header.toMembers = header.toMembers.take 3 ++ members.extras fields :=
    h.extras ▸ rfl
  obtain ⟨_, hlaunch⟩ := h.exists_launchOptions
  refine read_eq_valid_iff.2 ⟨hwritten ▸ hnames.written hown (by decide), ?_⟩
  exact {
    browser := optional_eq_valid_iff.2 (.inr ⟨_, rfl, Browser.read_name header.browser⟩)
    launchOptions := optional_eq_valid_iff.2 (.inr ⟨_, rfl, LaunchOptions.read_toMembers hlaunch⟩)
    contextOptions := optional_eq_valid_iff.2 (.inr ⟨_, rfl, rfl⟩)
    extras := h.extras.trans (hwritten ▸ (extras_written hown).symm) }

theorem Event.read_dump {event : Event} (h : read members = .valid event) :
    read event.dump = .valid event := by
  obtain ⟨hnames, h⟩ := read_eq_valid_iff.1 h
  have hown : (event.dump.take fields.length).map Prod.fst = fields.map Field.name := rfl
  have hwritten : event.dump = event.dump.take fields.length ++ members.extras fields :=
    h.extras ▸ rfl
  -- fields whose values are records or lists of their own; all others are read back at once
  have hvalues (values? : Option Values) :
      Json.readNullable Values.read (.ofOption Values.toJson values?) = .valid values? :=
    readNullable_ofOption (fun values _ => values.read_toJson) fun values => by cases values <;> rfl
  have hpositions : Json.readNullable (Json.readPart "Position" Position.read)
      (.ofOption (.object ∘ Position.toMembers) event.position) = .valid event.position :=
    readNullable_ofOption (fun position hposition =>
      (h.exists_position hposition).elim fun _ => Position.read_toMembers) fun _ => rfl
  have hsignals : Json.readList (Json.readPart "Signal" Signal.read)
      (.list (event.signals.map (.object ∘ Signal.toMembers))) = .valid event.signals :=
    readList_map fun signal hsignal =>
      (h.exists_signal hsignal).elim fun _ => Signal.read_toMembers
  have hframes : Json.readList Json.readText (.list (event.framePath.map .text)) =
      .valid event.framePath :=
    readList_map fun _ _ => rfl
  refine read_eq_valid_iff.2 ⟨hwritten ▸ hnames.written hown (by decide), ?_⟩
  exact {
    name := required_eq_valid_iff.2 ⟨_, rfl, rfl⟩
    selector := nullable_of_written rfl (fun _ => rfl) fun _ => rfl
    locator := optional_eq_valid_iff.2 (.inr ⟨_, rfl, rfl⟩)
    url := nullable_of_written rfl (fun _ => rfl) fun _ => rfl
    text := nullable_of_written rfl (fun _ => rfl) fun _ => rfl
    checked := nullable_of_written rfl (fun _ => rfl) fun _ => rfl
    clickCount := nullable_of_written rfl (fun _ => rfl) fun _ => rfl
    substring := nullable_of_written rfl (fun _ => rfl) fun _ => rfl
    key := nullable_of_written rfl (fun _ => rfl) fun _ => rfl
    modifiers := nullable_of_written rfl (fun _ => rfl) fun _ => rfl
    button := nullable_of_written rfl (fun _ => rfl) fun _ => rfl
    position := optional_eq_valid_iff.2 (.inr ⟨_, rfl, hpositions⟩)
    options := optional_eq_valid_iff.2 (.inr ⟨_, rfl, hvalues event.options⟩)
    files := optional_eq_valid_iff.2 (.inr ⟨_, rfl, hvalues event.files⟩)
    value := nullable_of_written rfl (fun _ => rfl) fun _ => rfl
    snapshot := nullable_of_written rfl (fun _ => rfl) fun _ => rfl
    signals := optional_eq_valid_iff.2 (.inr ⟨_, rfl, hsignals⟩)
    pageAlias := optional_eq_valid_iff.2 (.inr ⟨_, rfl, rfl⟩)
    framePath := optional_eq_valid_iff.2 (.inr ⟨_, rfl, hframes⟩)
    extras := h.extras.trans (hwritten ▸ (extras_written hown).symm) }

/-- Reading what was written of a record gives the record again: of a header, and of an event, which
then has the same code. -/
theorem read_written_of_read (members : Json.Members) :
    (∀ header, Header.read members = .valid header →
      Header.read header.toMembers = .valid header) ∧
    ∀ event, Event.read members = .valid event →
      ∃ reread, Event.read event.dump = .valid reread ∧ reread = event ∧
        reread.snippet = event.snippet :=
  ⟨fun _ => Header.read_toMembers, fun event h => ⟨event, Event.read_dump h, rfl, rfl⟩⟩

/-- A record that is a header and an event. Most values are of another kind than their fields, and
the number of clicks has both spellings. -/
def laxMembers : Json.Members :=
  [("name", .text "click"), ("click_count", .text "7"), ("checked", .text "Yes"),
    ("clickCount", .text " +0_2.0 "), ("substring", .number (.int 0)), ("modifiers", .bool true),
    ("position", .object [("y", .text "1.50"), ("z", .null), ("x", .text "3")]),
    ("files", .list [.text "a.txt"]),
    ("signals", .list [.object [("url", .null), ("name", .text "popup")]]),
    ("page_alias", .text "page1"), ("launch_options", .object [("headless", .text "off")])]

theorem read_written_laxMembers :
    (∃ header, Header.read laxMembers = .valid header ∧ header.launchOptions.headless = some false ∧
      Header.read header.toMembers = .valid header) ∧
    ∃ event reread, Event.read laxMembers = .valid event ∧ event.clickCount = some 2 ∧
      event.pageAlias = "page1" ∧ Event.read event.dump = .valid reread ∧ reread = event := by
  obtain ⟨hheader, hevent⟩ := read_written_of_read laxMembers
  refine ⟨⟨_, rfl, rfl, hheader _ rfl⟩, ?_⟩
  obtain ⟨reread, hread, heq, -⟩ := hevent _ rfl
  exact ⟨_, reread, rfl, rfl, rfl, hread, heq⟩

end Playback
