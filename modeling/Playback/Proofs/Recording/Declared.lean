import Playback.Event.Arguments
import Playback.Proofs.Except
import Playback.Proofs.Locator.Rearranged
import Playback.Proofs.Recording.Fields

/-!
# Records that agree on their fields

What is read of a record are its fields. A record that agrees with one that is read, by the names of
the fields and up to the order of its members, is read alike, unless it has a name that is no
Unicode text.

* `Json.SameFields`: the same value, or an object that agrees on the fields.
* `Header.RecordsAgree`, `Event.RecordsAgree`: records that agree on the fields of a header and of
  an event, and so do their parts. The context options can be any object, and a description may be
  rearranged.
* `Json.Members.AreNamed`: all names of a record and of the parts of it are Unicode text.
* `Header.IsLike`, `Event.IsLike`: headers and events that differ in what is not translated.
* `Header.read_of_agree`, `Event.read_of_agree`: records that agree are read alike if they are named
  by Unicode text. `Header.areNamed_of_read`, `Event.areNamed_of_read`: only such records are read.
-/

namespace Playback

namespace Json

open Members (AgreeOn HaveUnicodeNames)

/-- The same value, or another object with the same fields. -/
inductive SameFields (fields : List Field) : Json → Json → Prop
  | refl (value : Json) : SameFields fields value value
  | object {members others : Members} (h : AgreeOn fields (fun _ => Eq) members others) :
    SameFields fields (.object members) (.object others)

/-- The names of the value are Unicode text, if it is an object. -/
def IsNamed : Json → Prop
  | .object members => Members.HaveUnicodeNames members
  | _ => True

/-- The same of the value, and of the items of a list. -/
def HasNamedObjects : Json → Prop
  | .list items => ∀ item ∈ items, item.IsNamed
  | value => value.IsNamed

theorem HasNamedObjects.isNamed {value : Json} (h : value.HasNamedObjects) : value.IsNamed := by
  cases value with
  | list => trivial
  | null | bool | number | text | object => exact h

/-- The names of a record are Unicode text, and so are those in the objects that some of its fields
are read from. -/
structure Members.AreNamed (members : Members) (parts : List Field) : Prop where
  own : members.HaveUnicodeNames
  inParts : ∀ part ∈ parts, ∀ entry, members.entry? part = some entry → entry.2.HasNamedObjects

section Parts

variable {α : Type} {name : Text} {value value' : Json} {a : α}

/-- Where objects with the same fields are read alike, values with the same fields are. -/
theorem readPart_of_sameFields {fields : List Field} {read : Members → Checked α}
    {R : α → α → Prop} (hrefl : R a a)
    (hread : ∀ members others, AgreeOn fields (fun _ => Eq) members others →
      (members.map Prod.fst).Nodup → others.HaveUnicodeNames → read members = .valid a →
        ∃ b, read others = .valid b ∧ R a b)
    (h : SameFields fields value value') (hkeys : value.HasDistinctKeys)
    (hnamed : value'.IsNamed) (ha : readPart name read value = .valid a) :
    ∃ b, readPart name read value' = .valid b ∧ R a b := by
  cases h with
  | refl => exact ⟨a, ha, hrefl⟩
  | object hagree => exact hread _ _ hagree hkeys.nodup hnamed ha

/-- A part is read of an object with Unicode names, if members are read only then. -/
theorem hasNamedObjects_of_readPart {read : Members → Checked α}
    (hread : ∀ members a, read members = .valid a → members.HaveUnicodeNames)
    (h : readPart name read value = .valid a) : value.HasNamedObjects := by
  cases value with
  | object members => exact hread members a h
  | null | bool | number | text | list => cases h

/-- A list is read of such objects, if each of its items is. -/
theorem hasNamedObjects_of_readList {read : Json → Checked α} {values : List α}
    (hread : ∀ item a, read item = .valid a → item.HasNamedObjects)
    (h : readList read value = .valid values) : value.HasNamedObjects := by
  obtain ⟨items, rfl, hall⟩ := readList_eq_valid_iff.1 h
  exact forall_left_of_forall₂ hall fun item a hitem => (hread item a hitem).isNamed

/-- A field is read of such a value, if all values are. -/
theorem hasNamedObjects_of_optional {members : Members} {field : Field} {absent : α}
    {read : Json → Checked α} (hread : ∀ value a, read value = .valid a → value.HasNamedObjects)
    (h : members.optional field absent read = .valid a) {entry : Text × Json}
    (hentry : members.entry? field = some entry) : entry.2.HasNamedObjects := by
  rcases Members.optional_eq_valid_iff.1 h with ⟨hnone, -⟩ | ⟨_, hsome, hvalue⟩
  · cases hnone.symm.trans hentry
  · cases hsome.symm.trans hentry
    exact hread _ _ hvalue

end Parts

end Json

open Json.Members (AgreeOn required_congr optional_congr optional_of_rel mem_of_entry)

variable {members others : Json.Members}

/-! ## The parts of records -/

section Parts

variable (hkeys : (members.map Prod.fst).Nodup) (hnames : others.HaveUnicodeNames)

include hkeys hnames

theorem LaunchOptions.read_of_agree {options : LaunchOptions}
    (h : AgreeOn [headlessField] (fun _ => Eq) members others)
    (hread : read members = .valid options) :
    ∃ options', read others = .valid options' ∧ options'.headless = options.headless := by
  obtain ⟨-, hfields⟩ := read_eq_valid_iff.1 hread
  have hentry : others.entry? headlessField = members.entry? headlessField :=
    h.entry_eq hkeys List.mem_cons_self fun _ _ _ _ => id
  exact ⟨⟨options.headless, others.extras [headlessField]⟩,
    read_eq_valid_iff.2 ⟨hnames, (optional_congr hentry).trans hfields.headless, rfl⟩, rfl⟩

theorem Signal.read_of_agree {signal : Signal}
    (h : AgreeOn [nameField] (fun _ => Eq) members others)
    (hread : read members = .valid signal) :
    ∃ signal', read others = .valid signal' ∧ signal'.name = signal.name := by
  obtain ⟨-, hfields⟩ := read_eq_valid_iff.1 hread
  have hentry : others.entry? nameField = members.entry? nameField :=
    h.entry_eq hkeys List.mem_cons_self fun _ _ _ _ => id
  exact ⟨⟨signal.name, others.extras [nameField]⟩,
    read_eq_valid_iff.2 ⟨hnames, (required_congr hentry).trans hfields.name, rfl⟩, rfl⟩

theorem Position.read_of_agree {position : Position}
    (h : AgreeOn [xField, yField] (fun _ => Eq) members others)
    (hread : read members = .valid position) :
    ∃ position', read others = .valid position' ∧
      position'.expression = position.expression := by
  obtain ⟨-, hfields⟩ := read_eq_valid_iff.1 hread
  have hx : others.entry? xField = members.entry? xField :=
    h.entry_eq hkeys List.mem_cons_self fun _ _ _ _ => id
  have hy : others.entry? yField = members.entry? yField :=
    h.entry_eq hkeys (List.mem_cons_of_mem _ List.mem_cons_self) fun _ _ _ _ => id
  exact ⟨⟨position.x, position.y, others.extras [xField, yField]⟩, read_eq_valid_iff.2
    ⟨hnames, (required_congr hx).trans hfields.x, (required_congr hy).trans hfields.y, rfl⟩, rfl⟩

end Parts

/-- The signals of lists of objects with the same names have the same names. -/
theorem Signal.readList_of_sameFields {items items' : List Json} {signals : List Signal}
    (h : List.Forall₂ (Json.SameFields [nameField]) items items')
    (hkeys : ∀ item ∈ items, item.HasDistinctKeys)
    (hnamed : ∀ item ∈ items', item.IsNamed)
    (hread : Json.readList (Json.readPart "Signal" read) (.list items) = .valid signals) :
    ∃ signals', Json.readList (Json.readPart "Signal" read) (.list items') = .valid signals' ∧
      signals'.map name = signals.map name := by
  obtain ⟨_, ⟨⟩, hall⟩ := Json.readList_eq_valid_iff.1 hread
  let SameName (signal signal' : Signal) : Prop := signal'.name = signal.name
  obtain ⟨signals', hall', hnames⟩ : ∃ signals', List.Forall₂
      (fun item signal => Json.readPart "Signal" read item = .valid signal) items' signals' ∧
        List.Forall₂ SameName signals signals' :=
    exists_forall₂_of_forall₂ h hkeys hnamed hall fun _ _ signal hsame hkeys hnamed =>
      Json.readPart_of_sameFields rfl
        (fun _ _ hagree hkeys hnames => read_of_agree hkeys hnames hagree) hsame hkeys hnamed
  refine ⟨signals', Json.readList_eq_valid_iff.2 ⟨_, rfl, hall'⟩, ?_⟩
  rw [← List.forall₂_eq_eq_eq, List.forall₂_map_left_iff, List.forall₂_map_right_iff]
  exact hnames.flip

/-! ## Headers -/

namespace Header

/-- Related values of two headers: launch options with the same fields, any context options, and
for all else the same value. -/
inductive SameValue : Text → Json → Json → Prop
  | refl (name : Text) (value : Json) : SameValue name value value
  | launchOptions {name : Text} {value value' : Json} (hname : name ∈ launchField.names)
    (h : Json.SameFields [LaunchOptions.headlessField] value value') : SameValue name value value'
  | contextOptions {name : Text} (hname : name ∈ contextField.names)
    (members others : Json.Members) : SameValue name (.object members) (.object others)

/-- The records agree on the fields of a header. -/
abbrev RecordsAgree (members others : Json.Members) : Prop :=
  AgreeOn fields SameValue members others

/-- The fields of a header that are read from an object with fields of its own. -/
def parts : List Field := [launchField]

/-- The headers have the same browser, launched with or without a window. -/
structure IsLike (header header' : Header) : Prop where
  browser : header'.browser = header.browser
  headless : header'.launchOptions.headless = header.launchOptions.headless

section Values

variable {name : Text} {value value' : Json}

theorem SameValue.browser (h : SameValue name value value') (hname : name ∈ browserField.names) :
    value = value' := by
  have hother : ∀ name ∈ browserField.names,
      name ∉ launchField.names ∧ name ∉ contextField.names := by decide
  cases h with
  | refl => rfl
  | launchOptions hlaunch => exact absurd hlaunch (hother name hname).1
  | contextOptions hcontext => exact absurd hcontext (hother name hname).2

theorem SameValue.launch (h : SameValue name value value') (hname : name ∈ launchField.names) :
    Json.SameFields [LaunchOptions.headlessField] value value' := by
  have hother : ∀ name ∈ launchField.names, name ∉ contextField.names := by decide
  cases h with
  | refl => exact .refl value
  | launchOptions _ h => exact h
  | contextOptions hcontext => exact absurd hcontext (hother name hname)

theorem SameValue.context (h : SameValue name value value') (hname : name ∈ contextField.names)
    {options : Json.Members} (hread : readContext value = .valid options) :
    ∃ options', readContext value' = .valid options' := by
  have hother : ∀ name ∈ contextField.names, name ∉ launchField.names := by decide
  cases h with
  | refl => exact ⟨options, hread⟩
  | launchOptions hlaunch => exact absurd hlaunch (hother name hname)
  | contextOptions _ members others => exact ⟨others, rfl⟩

end Values

/-- Only records with Unicode names are read. -/
theorem areNamed_of_read {header : Header} (h : read members = .valid header) :
    members.AreNamed parts := by
  obtain ⟨hnames, hfields⟩ := read_eq_valid_iff.1 h
  refine ⟨hnames, List.forall_mem_singleton.2 fun entry => ?_⟩
  refine Json.hasNamedObjects_of_optional (fun value options => ?_) hfields.launchOptions
  exact Json.hasNamedObjects_of_readPart fun _ _ hread =>
    (LaunchOptions.read_eq_valid_iff.1 hread).1

/-- Records that agree are read alike, if the other one is named by Unicode text. -/
theorem read_of_agree {header : Header} (h : RecordsAgree members others)
    (hkeys : (Json.object members).HasDistinctKeys) (hnamed : others.AreNamed parts)
    (hread : read members = .valid header) :
    ∃ header', read others = .valid header' ∧ header.IsLike header' := by
  obtain ⟨-, hfields⟩ := read_eq_valid_iff.1 hread
  have hbrowser : others.entry? browserField = members.entry? browserField :=
    h.entry_eq hkeys.nodup (by simp [fields]) fun _ hname _ _ hvalue => hvalue.browser hname
  have hlaunch : ∃ options, others.optional launchField .absent
      (Json.readPart "LaunchOptions" LaunchOptions.read) = .valid options ∧
        options.headless = header.launchOptions.headless := by
    let R (options options' : LaunchOptions) : Prop := options'.headless = options.headless
    refine optional_of_rel (R := R) (h.rel_entry hkeys.nodup (by simp [fields])) rfl ?_
      hfields.launchOptions
    rintro ⟨name, value⟩ ⟨_, value'⟩ hsome hsome' ⟨rfl, hvalue⟩ ha
    obtain ⟨hmem, hname⟩ := mem_of_entry hsome
    exact Json.readPart_of_sameFields (R := R) rfl
      (fun _ _ hagree hkeys hnames => LaunchOptions.read_of_agree hkeys hnames hagree)
      (hvalue.launch hname) (hkeys.of_mem_members _ hmem)
      (hnamed.inParts _ List.mem_cons_self _ hsome').isNamed ha
  have hcontext : ∃ options, others.optional contextField [] readContext = .valid options ∧
      True := by
    refine optional_of_rel (R := fun _ _ => True) (h.rel_entry hkeys.nodup (by simp [fields]))
      trivial ?_ hfields.contextOptions
    rintro ⟨name, value⟩ ⟨_, value'⟩ hsome - ⟨rfl, hvalue⟩ ha
    obtain ⟨options, hoptions⟩ := hvalue.context (mem_of_entry hsome).2 ha
    exact ⟨options, hoptions, trivial⟩
  obtain ⟨options, hoptions, hheadless⟩ := hlaunch
  obtain ⟨context, hcontext, -⟩ := hcontext
  refine ⟨⟨header.browser, options, context, others.extras fields⟩, ?_, rfl, hheadless⟩
  exact read_eq_valid_iff.2 ⟨hnamed.own, (optional_congr hbrowser).trans hfields.browser, hoptions,
    hcontext, rfl⟩

end Header

/-! ## Events -/

namespace Event

/-- Related values of two events: a rearranged description, positions and signals with the same
fields, and for all else the same value. -/
inductive SameValue : Text → Json → Json → Prop
  | refl (name : Text) (value : Json) : SameValue name value value
  | locator {name : Text} {value value' : Json} (hname : name ∈ locatorField.names)
    (h : value.Rearranged value') : SameValue name value value'
  | position {name : Text} {value value' : Json} (hname : name ∈ positionField.names)
    (h : Json.SameFields [Position.xField, Position.yField] value value') :
    SameValue name value value'
  | signals {name : Text} {items items' : List Json} (hname : name ∈ signalsField.names)
    (h : List.Forall₂ (Json.SameFields [Signal.nameField]) items items') :
    SameValue name (.list items) (.list items')

/-- The records agree on the fields of an event. -/
abbrev RecordsAgree (members others : Json.Members) : Prop :=
  AgreeOn fields SameValue members others

/-- The fields of an event that are read from objects with fields of their own. -/
def parts : List Field := [positionField, signalsField]

/-- The events are the same but for what is left over, the description of the target, the position
and the signals. These have the same locator, the same coordinates and the same names. -/
structure IsLike (event event' : Event) : Prop where
  rest : event' = { event with
    locator := event'.locator
    position := event'.position
    signals := event'.signals
    extras := event'.extras }
  locator : ∀ selector, (Locator.ofTarget selector event'.locator).map Prod.fst =
    (Locator.ofTarget selector event.locator).map Prod.fst
  position : event'.position.map Position.expression = event.position.map Position.expression
  signals : event'.signals.map Signal.name = event.signals.map Signal.name

section Values

variable {name : Text} {value value' : Json}

theorem SameValue.eq (h : SameValue name value value')
    (hname : name ∉ locatorField.names ++ positionField.names ++ signalsField.names) :
    value = value' := by
  simp only [List.mem_append, not_or] at hname
  cases h with
  | refl => rfl
  | locator hlocator => exact absurd hlocator hname.1.1
  | position hposition => exact absurd hposition hname.1.2
  | signals hsignals => exact absurd hsignals hname.2

theorem SameValue.description (h : SameValue name value value')
    (hname : name ∈ locatorField.names) : value.Rearranged value' := by
  have hother : ∀ name ∈ locatorField.names,
      name ∉ positionField.names ∧ name ∉ signalsField.names := by decide
  cases h with
  | refl => exact .refl value
  | locator _ h => exact h
  | position hposition => exact absurd hposition (hother name hname).1
  | signals hsignals => exact absurd hsignals (hother name hname).2

theorem SameValue.point (h : SameValue name value value') (hname : name ∈ positionField.names) :
    Json.SameFields [Position.xField, Position.yField] value value' := by
  have hother : ∀ name ∈ positionField.names,
      name ∉ locatorField.names ∧ name ∉ signalsField.names := by decide
  cases h with
  | refl => exact .refl value
  | locator hlocator => exact absurd hlocator (hother name hname).1
  | position _ h => exact h
  | signals hsignals => exact absurd hsignals (hother name hname).2

theorem SameValue.items (h : SameValue name value value') (hname : name ∈ signalsField.names) :
    value = value' ∨ ∃ items items', value = .list items ∧ value' = .list items' ∧
      List.Forall₂ (Json.SameFields [Signal.nameField]) items items' := by
  have hother : ∀ name ∈ signalsField.names,
      name ∉ locatorField.names ∧ name ∉ positionField.names := by decide
  cases h with
  | refl => exact .inl rfl
  | locator hlocator => exact absurd hlocator (hother name hname).1
  | position hposition => exact absurd hposition (hother name hname).2
  | signals _ h => exact .inr ⟨_, _, rfl, rfl, h⟩

end Values

/-- Only records with Unicode names are read. -/
theorem areNamed_of_read {event : Event} (h : read members = .valid event) :
    members.AreNamed parts := by
  obtain ⟨hnames, hfields⟩ := read_eq_valid_iff.1 h
  have hposition (value : Json) (position : Option Position)
      (hread : Json.readNullable (Json.readPart "Position" Position.read) value =
        .valid position) : value.HasNamedObjects := by
    cases value with
    | null => trivial
    | object members =>
      obtain ⟨position, hread, -⟩ := Checked.map_eq_valid_iff.1 hread
      exact (Position.read_eq_valid_iff.1 hread).1
    | bool | number | text | list => cases hread
  have hsignals (value : Json) (signals : List Signal)
      (hread : Json.readList (Json.readPart "Signal" Signal.read) value = .valid signals) :
      value.HasNamedObjects :=
    Json.hasNamedObjects_of_readList (fun _ _ => Json.hasNamedObjects_of_readPart fun _ _ hread =>
      (Signal.read_eq_valid_iff.1 hread).1) hread
  refine ⟨hnames, ?_⟩
  simp only [parts, List.forall_mem_cons]
  exact ⟨fun _ => Json.hasNamedObjects_of_optional hposition hfields.position,
    fun _ => Json.hasNamedObjects_of_optional hsignals hfields.signals, nofun⟩

section Agree

variable {event : Event} (h : RecordsAgree members others)
  (hkeys : (Json.object members).HasDistinctKeys) (hnamed : others.AreNamed parts)

include h hkeys

theorem locator_of_agree
    (hread : members.optional locatorField .null .valid = .valid event.locator) :
    ∃ locator, others.optional locatorField .null .valid = .valid locator ∧
      ∀ selector, (Locator.ofTarget selector locator).map Prod.fst =
        (Locator.ofTarget selector event.locator).map Prod.fst := by
  refine optional_of_rel
    (R := fun locator locator' => ∀ selector, (Locator.ofTarget selector locator').map Prod.fst =
      (Locator.ofTarget selector locator).map Prod.fst)
    (h.rel_entry hkeys.nodup (by simp [fields])) (fun _ => rfl) ?_ hread
  rintro ⟨name, value⟩ ⟨_, value'⟩ hsome - ⟨rfl, hvalue⟩ ha
  obtain ⟨hmem, hname⟩ := mem_of_entry hsome
  cases ha
  exact ⟨value', rfl, Locator.ofTarget_of_rearranged (hvalue.description hname)
    (hkeys.of_mem_members _ hmem)⟩

include hnamed

theorem position_of_agree
    (hread : members.nullable positionField (Json.readPart "Position" Position.read) =
      .valid event.position) :
    ∃ position, others.nullable positionField (Json.readPart "Position" Position.read) =
      .valid position ∧
        position.map Position.expression = event.position.map Position.expression := by
  refine optional_of_rel
    (R := fun position position' => position'.map Position.expression =
      position.map Position.expression)
    (h.rel_entry hkeys.nodup (by simp [fields])) rfl ?_ hread
  rintro ⟨name, value⟩ ⟨_, value'⟩ hsome hsome' ⟨rfl, hvalue⟩ ha
  obtain ⟨hmem, hname⟩ := mem_of_entry hsome
  have hvalueKeys := hkeys.of_mem_members _ hmem
  have hvalueNamed := hnamed.inParts positionField (by simp [parts]) _ hsome'
  cases hvalue.point hname with
  | refl => exact ⟨_, ha, rfl⟩
  | object hagree =>
    obtain ⟨position, hposition, hsame⟩ := Checked.map_eq_valid_iff.1 ha
    obtain ⟨position', hposition', hexpression⟩ :=
      Position.read_of_agree hvalueKeys.nodup hvalueNamed hagree hposition
    refine ⟨some position', Checked.map_eq_valid_iff.2 ⟨position', hposition', rfl⟩, ?_⟩
    rw [← hsame, Option.map_some, Option.map_some, hexpression]

theorem signals_of_agree
    (hread : members.optional signalsField []
      (Json.readList (Json.readPart "Signal" Signal.read)) = .valid event.signals) :
    ∃ signals, others.optional signalsField []
      (Json.readList (Json.readPart "Signal" Signal.read)) = .valid signals ∧
        signals.map Signal.name = event.signals.map Signal.name := by
  refine optional_of_rel
    (R := fun signals signals' => signals'.map Signal.name = signals.map Signal.name)
    (h.rel_entry hkeys.nodup (by simp [fields])) rfl ?_ hread
  rintro ⟨name, value⟩ ⟨_, value'⟩ hsome hsome' ⟨rfl, hvalue⟩ ha
  obtain ⟨hmem, hname⟩ := mem_of_entry hsome
  have hvalueKeys := hkeys.of_mem_members _ hmem
  have hvalueNamed := hnamed.inParts signalsField (by simp [parts]) _ hsome'
  rcases hvalue.items hname with rfl | ⟨items, items', rfl, rfl, hitems⟩
  · exact ⟨_, ha, rfl⟩
  · exact Signal.readList_of_sameFields hitems hvalueKeys.of_mem_items hvalueNamed ha

/-- Records that agree are read alike, if the other one is named by Unicode text. -/
theorem read_of_agree (hread : read members = .valid event) :
    ∃ event', read others = .valid event' ∧ event.IsLike event' := by
  obtain ⟨-, hfields⟩ := read_eq_valid_iff.1 hread
  -- all fields but three have the same entry in both records
  have hentry : ∀ field ∈ fields, (∀ name ∈ field.names,
      name ∉ locatorField.names ++ positionField.names ++ signalsField.names) →
        others.entry? field = members.entry? field := fun field hfield hplain =>
    h.entry_eq hkeys.nodup hfield fun name hname _ _ hvalue => hvalue.eq (hplain name hname)
  simp only [fields, List.forall_mem_cons] at hentry
  obtain ⟨hname, hselector, -, hurl, htext, hchecked, hclicks, hsubstring, hkey, hmodifiers,
    hbutton, -, hoptions, hfiles, hvalue, hsnapshot, -, hpage, hframes, -⟩ := hentry
  obtain ⟨locator, hlocator, htarget⟩ := locator_of_agree h hkeys hfields.locator
  obtain ⟨position, hposition, hpoint⟩ := position_of_agree h hkeys hnamed hfields.position
  obtain ⟨signals, hsignals, hnames⟩ := signals_of_agree h hkeys hnamed hfields.signals
  refine ⟨{ event with
    locator := locator
    position := position
    signals := signals
    extras := others.extras fields }, read_eq_valid_iff.2 ⟨hnamed.own, ?_⟩,
    ⟨rfl, htarget, hpoint, hnames⟩⟩
  exact {
    name := (required_congr (hname (by decide))).trans hfields.name
    selector := (optional_congr (hselector (by decide))).trans hfields.selector
    locator := hlocator
    url := (optional_congr (hurl (by decide))).trans hfields.url
    text := (optional_congr (htext (by decide))).trans hfields.text
    checked := (optional_congr (hchecked (by decide))).trans hfields.checked
    clickCount := (optional_congr (hclicks (by decide))).trans hfields.clickCount
    substring := (optional_congr (hsubstring (by decide))).trans hfields.substring
    key := (optional_congr (hkey (by decide))).trans hfields.key
    modifiers := (optional_congr (hmodifiers (by decide))).trans hfields.modifiers
    button := (optional_congr (hbutton (by decide))).trans hfields.button
    position := hposition
    options := (optional_congr (hoptions (by decide))).trans hfields.options
    files := (optional_congr (hfiles (by decide))).trans hfields.files
    value := (optional_congr (hvalue (by decide))).trans hfields.value
    snapshot := (optional_congr (hsnapshot (by decide))).trans hfields.snapshot
    signals := hsignals
    pageAlias := (optional_congr (hpage (by decide))).trans hfields.pageAlias
    framePath := (optional_congr (hframes (by decide))).trans hfields.framePath
    extras := rfl }

end Agree

end Event

end Playback
