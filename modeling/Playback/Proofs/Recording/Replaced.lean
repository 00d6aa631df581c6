import Playback.Proofs.Recording.Fields
import Playback.Proofs.Schema.Declared

/-!
# Records with one value replaced

A record with another value of a member is read as before, but for the field that is read from that
member.

* `Json.Members.put`: the members with a value for a name, whether they had one or not.
* `Json.Members.entry?_put_of_notMem`, `Json.Members.extras_put`: other fields are read
  from the same members, and the same is left over.
* `Event.withTarget`: an event with another selector and another description of its target.
* `Event.read_put_selector`, `Event.read_put_locator`: what is read of a record with
  another selector, or with another description.
-/

namespace Playback

namespace Json.Members

variable {members others : Members} {name : Text} {value : Json}

/-- The members with a value for a name. -/
def put (members : Members) (name : Text) (value : Json) : Members :=
  Assoc.put members name value

theorem get?_put (members : Members) (name other : Text) (value : Json) :
    (members.put name value).get? other =
      if other = name then some value else members.get? other :=
  Assoc.lookup_put members name other value

/-- A field is read from the same member if its names find the same. -/
theorem entry?_congr {field : Field}
    (h : ∀ name ∈ field.names, others.get? name = members.get? name) :
    others.entry? field = members.entry? field := by
  unfold entry?
  rw [h field.name List.mem_cons_self]
  cases members.get? field.name with
  | some value => rfl
  | none =>
    cases hsecond : field.second? with
    | none => rfl
    | some second =>
      have hmem : second ∈ field.names := by
        rw [Field.names, hsecond]
        exact List.mem_cons_of_mem _ List.mem_cons_self
      rw [Option.bind_some, Option.bind_some, h second hmem]

theorem entry?_put_of_notMem {field : Field} (h : name ∉ field.names) :
    entry? (members.put name value) field = members.entry? field := by
  refine entry?_congr fun other hother => ?_
  rw [get?_put, if_neg (ne_of_mem_of_not_mem hother h)]

theorem entry?_put_self :
    entry? (members.put name value) { name := name } = some (name, value) := by
  rw [entry?_eq, get?_put, if_pos rfl]
  rfl

theorem haveUnicodeNames_put (h : members.HaveUnicodeNames) (hname : name.isUnicode) :
    (members.put name value).HaveUnicodeNames := by
  intro member hmember
  rcases Assoc.mem_put hmember with rfl | hmember
  · exact hname
  · exact h member hmember

/-- The names of the members that fields are read from. -/
def taken (members : Members) (fields : List Field) : List Text :=
  fields.filterMap fun field => (members.entry? field).map Prod.fst

theorem mem_taken_iff {fields : List Field} : name ∈ members.taken fields ↔
    ∃ field ∈ fields, ∃ value, members.entry? field = some (name, value) := by
  simp [taken]

/-- A name that one field has alone is taken if there is a member of that name. -/
theorem mem_taken_of_get? {fields : List Field} (hfield : { name := name } ∈ fields)
    (h : members.get? name = some value) : name ∈ members.taken fields :=
  mem_taken_iff.2 ⟨_, hfield, value, by rw [entry?_eq, h]; rfl⟩

/-- The value of a field that has one name, which no other field has, is never left over, and all
else is as before. -/
theorem extras_put {fields : List Field} (hfield : { name := name } ∈ fields)
    (halone : ∀ field ∈ fields, name ∈ field.names → field.names = [name]) :
    (members.put name value).extras fields = members.extras fields := by
  have hnew : name ∈ (members.put name value).taken fields :=
    mem_taken_of_get? hfield ((get?_put members name name value).trans (if_pos rfl))
  have hother {other : Text} (hne : other ≠ name) :
      other ∈ (members.put name value).taken fields ↔ other ∈ members.taken fields := by
    rw [mem_taken_iff, mem_taken_iff]
    refine exists_congr fun field => and_congr_right fun hmem => ?_
    by_cases hname : name ∈ field.names
    · have hnone {members : Members} {old : Json} : members.entry? field ≠ some (other, old) := by
        intro hentry
        have hother := (mem_of_entry hentry).2
        rw [halone field hmem hname] at hother
        exact hne (List.mem_singleton.1 hother)
      exact iff_of_false (fun ⟨_, h⟩ => hnone h) fun ⟨_, h⟩ => hnone h
    · rw [entry?_put_of_notMem hname]
  have hold {member : Text × Json} (hmember : member ∈ members) (hname : member.1 = name) :
      name ∈ members.taken fields := by
    obtain ⟨old, hold⟩ := exists_lookup_iff_mem.2 (List.mem_map_of_mem hmember)
    exact mem_taken_of_get? hfield (hname ▸ hold)
  show List.filter (fun member => !((members.put name value).taken fields).contains member.1)
    (Assoc.put members name value) =
      List.filter (fun member => !(members.taken fields).contains member.1) members
  rw [Assoc.filter_put fun _ => by simpa using hnew]
  refine List.filter_congr fun member hmember => congrArg (! ·) ?_
  rw [Bool.eq_iff_iff, List.contains_iff_mem, List.contains_iff_mem]
  by_cases hname : member.1 = name
  · rw [hname]
    exact iff_of_true hnew (hold hmember hname)
  · exact hother hname

end Json.Members

namespace Event

open Json.Members (required_congr optional_congr entry?_put_of_notMem entry?_put_self
  haveUnicodeNames_put extras_put)

variable {members : Json.Members} {event : Event}

/-- The event with another selector and another description of its target. -/
def withTarget (event : Event) (selector : Option Text) (description : Json) : Event :=
  { event with selector := selector, locator := description }

/-- A record that has another selector or another description, and all else as before. -/
theorem read_withTarget {others : Json.Members} {selector : Option Text} {description : Json}
    (h : read members = .valid event) (hnames : others.HaveUnicodeNames)
    (hselector : others.nullable selectorField Json.readText = .valid selector)
    (hlocator : others.optional locatorField .null .valid = .valid description)
    (hentry : ∀ field ∈ fields, (∀ name ∈ [selectorField.name, locatorField.name],
      name ∉ field.names) → others.entry? field = members.entry? field)
    (hextras : others.extras fields = members.extras fields) :
    read others = .valid (event.withTarget selector description) := by
  obtain ⟨-, hfields⟩ := read_eq_valid_iff.1 h
  simp only [fields, List.forall_mem_cons] at hentry
  obtain ⟨hname, -, -, hurl, htext, hchecked, hclicks, hsubstring, hkey, hmodifiers, hbutton,
    hposition, hoptions, hfiles, hvalue, hsnapshot, hsignals, hpage, hframes, -⟩ := hentry
  exact read_eq_valid_iff.2 ⟨hnames, {
    name := (required_congr (hname (by decide))).trans hfields.name
    selector := hselector
    locator := hlocator
    url := (optional_congr (hurl (by decide))).trans hfields.url
    text := (optional_congr (htext (by decide))).trans hfields.text
    checked := (optional_congr (hchecked (by decide))).trans hfields.checked
    clickCount := (optional_congr (hclicks (by decide))).trans hfields.clickCount
    substring := (optional_congr (hsubstring (by decide))).trans hfields.substring
    key := (optional_congr (hkey (by decide))).trans hfields.key
    modifiers := (optional_congr (hmodifiers (by decide))).trans hfields.modifiers
    button := (optional_congr (hbutton (by decide))).trans hfields.button
    position := (optional_congr (hposition (by decide))).trans hfields.position
    options := (optional_congr (hoptions (by decide))).trans hfields.options
    files := (optional_congr (hfiles (by decide))).trans hfields.files
    value := (optional_congr (hvalue (by decide))).trans hfields.value
    snapshot := (optional_congr (hsnapshot (by decide))).trans hfields.snapshot
    signals := (optional_congr (hsignals (by decide))).trans hfields.signals
    pageAlias := (optional_congr (hpage (by decide))).trans hfields.pageAlias
    framePath := (optional_congr (hframes (by decide))).trans hfields.framePath
    extras := hfields.extras.trans hextras.symm }⟩

/-- A record with another selector, which may be `null`. -/
theorem read_put_selector (h : read members = .valid event) (selector : Option Text) :
    read (members.put "selector" (.ofOption .text selector)) =
      .valid (event.withTarget selector event.locator) := by
  obtain ⟨hnames, hfields⟩ := read_eq_valid_iff.1 h
  refine read_withTarget h (haveUnicodeNames_put hnames (by decide)) ?_ ?_ ?_ ?_
  · refine Json.Members.optional_eq_valid_iff.2 (.inr ⟨_, entry?_put_self, ?_⟩)
    cases selector <;> rfl
  · exact (optional_congr (entry?_put_of_notMem (by decide))).trans hfields.locator
  · exact fun field _ hother => entry?_put_of_notMem (hother _ (by simp [selectorField]))
  · exact extras_put (show selectorField ∈ fields by simp [fields]) (by decide)

/-- A record with another description of the target. -/
theorem read_put_locator (h : read members = .valid event) (description : Json) :
    read (members.put "locator" description) =
      .valid (event.withTarget event.selector description) := by
  obtain ⟨hnames, hfields⟩ := read_eq_valid_iff.1 h
  refine read_withTarget h (haveUnicodeNames_put hnames (by decide)) ?_ ?_ ?_ ?_
  · exact (optional_congr (entry?_put_of_notMem (by decide))).trans hfields.selector
  · exact Json.Members.optional_eq_valid_iff.2 (.inr ⟨_, entry?_put_self, rfl⟩)
  · exact fun field _ hother => entry?_put_of_notMem (hother _ (by simp [locatorField]))
  · exact extras_put (show locatorField ∈ fields by simp [fields]) (by decide)

end Event

end Playback
