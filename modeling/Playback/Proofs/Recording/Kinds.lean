import Playback.Proofs.Schema.Reported
import Playback.Recording.Event
import Playback.Recording.Header

/-!
# What records have to be

For each field of a record it is declared whether it has to be there and what its value has to be.
The problems of a record are those of its fields, in the order of the declarations. Reading the
record finds these, unless a name in it is no Unicode text.

* `Plain`: what a value without parts has to be. `Kind`: the same of any value of a record.
  `Plain.report`, `Kind.report`: the problems of a value that is something else.
* `Declaration`: what is declared of a field. `Json.Members.report`: the problems of an object whose
  fields are declared.
* `Header.declarations`, `Event.declarations`: the fields of records.
* `Header.reports_read`, `Event.reports_read`: reading a record reports the problems of its fields.
-/

namespace Playback

open Checked (Reports)

/-- What a value without parts has to be. -/
inductive Plain where
  | any
  | text
  | flag
  | integer
  | floatingPoint
  | browser
  | dictionary
  | nullable (kind : Plain)
  | list (kind : Plain)
  /-- One of two alternatives, each with the name that problems have it by. -/
  | either (first : Text) (kind : Plain) (second : Text) (other : Plain)

namespace Plain

/-- The problems of a value. A floating-point number may be written as any number. -/
def report : Plain → Json → List Problem
  | .any, _ => []
  | .text, value => (Json.readText value).problems
  | .flag, value => (Json.readFlag value).problems
  | .integer, value => (Json.readInteger value).problems
  | .floatingPoint, .number _ => []
  | .floatingPoint, value => (Json.readFloatingPoint value).problems
  | .browser, value => (Browser.read value).problems
  | .dictionary, value => (Header.readContext value).problems
  | .nullable kind, value => Json.nullableReport kind.report value
  | .list kind, value => Json.listReport kind.report value
  | .either first kind second other, value =>
    Json.eitherReport first kind.report second other.report value

/-- A number: a whole one or a floating-point one. -/
def number : Plain := .either "int" .integer "float" .floatingPoint

/-- A list of texts, or one text. -/
def texts : Plain := .either "list[str]" (.list .text) "str" .text

/-- The values of a kind are those that are read, and the problems of others are those that reading
finds. -/
def IsReadBy {α : Type} (kind : Plain) (read : Json → Checked α) : Prop :=
  ∀ value, (read value).Reports (kind.report value)

theorem isReadBy_text : IsReadBy .text Json.readText := Json.reports_readText

theorem isReadBy_flag : IsReadBy .flag Json.readFlag := Json.reports_readFlag

theorem isReadBy_integer : IsReadBy .integer Json.readInteger := Json.reports_readInteger

theorem isReadBy_browser : IsReadBy .browser Browser.read := fun value =>
  Checked.reports_problems <| by fun_cases Browser.read value <;> nofun

theorem isReadBy_dictionary : IsReadBy .dictionary Header.readContext := fun value =>
  Checked.reports_problems <| by fun_cases Header.readContext value <;> nofun

theorem isReadBy_any : IsReadBy .any Checked.valid := Reports.valid

theorem IsReadBy.nullable {α : Type} {kind : Plain} {read : Json → Checked α}
    (h : kind.IsReadBy read) : IsReadBy (.nullable kind) (Json.readNullable read) :=
  Json.reports_readNullable h

theorem IsReadBy.list {α : Type} {kind : Plain} {read : Json → Checked α}
    (h : kind.IsReadBy read) : IsReadBy (.list kind) (Json.readList read) :=
  Json.reports_readList h

theorem isReadBy_number : number.IsReadBy Json.readNumber := by
  intro value
  by_cases hn : ∃ n, value = .number n
  · obtain ⟨n, rfl⟩ := hn
    have hnone : number.report (.number n) = [] := Json.eitherReport_of_right rfl
    rw [hnone]
    exact .valid n
  · have hinteger := Json.reports_readInteger value
    have hfloating := Json.reports_readFloatingPoint value
    have hreport : number.report value = if (Json.readInteger value).problems = [] ∨
        (Json.readFloatingPoint value).problems = [] then []
        else (Json.readInteger value).problems.map (Problem.under (.key "int")) ++
          (Json.readFloatingPoint value).problems.map (Problem.under (.key "float")) := by
      cases value with
      | number n => exact absurd ⟨n, rfl⟩ hn
      | null | bool | text | list | object => rfl
    rw [hreport]
    unfold Json.readNumber
    split
    · next n => exact absurd ⟨n, rfl⟩ hn
    · revert hinteger hfloating
      generalize Json.readInteger value = asInteger, Json.readFloatingPoint value = asFloat
      rintro (_ | hfound) (_ | hlater)
      · exact .valid _
      · exact .valid _
      · rw [if_pos (.inr rfl)]
        exact .valid _
      · exact Json.reports_eitherOf hfound hlater

theorem isReadBy_texts : texts.IsReadBy Values.read := by
  intro value
  by_cases ht : ∃ t, value = .text t
  · obtain ⟨t, rfl⟩ := ht
    have hnone : texts.report (.text t) = [] := Json.eitherReport_of_right rfl
    rw [hnone]
    exact .valid _
  · have htext : report .text value = [⟨[], .text⟩] := by
      cases value with
      | text t => exact absurd ⟨t, rfl⟩ ht
      | null | bool | number | list | object => rfl
    have hlist := isReadBy_text.list value
    rw [texts, report, Json.eitherReport, htext]
    unfold Values.read
    split
    · next t => exact absurd ⟨t, rfl⟩ ht
    · revert hlist
      generalize report (.list .text) value = found, Json.readList Json.readText value = asList
      rintro (_ | hfound)
      · exact .valid _
      · exact Json.reports_eitherOf hfound (List.cons_ne_nil _ _)

end Plain

/-! ## Fields -/

/-- What is declared of a field: whether it has to be there, and what its value has to be. -/
structure Declaration (κ : Type) where
  field : Field
  isRequired : Bool
  kind : κ

section Fields

variable {κ : Type}

/-- The problems of a field, where `judge` has those of a value. -/
def Declaration.report (declaration : Declaration κ) (judge : κ → Json → List Problem)
    (members : Json.Members) : List Problem :=
  match members.entry? declaration.field with
  | some (name, value) => (judge declaration.kind value).map (Problem.under (.key name))
  | none => if declaration.isRequired then [⟨[.key declaration.field.name], .missing⟩] else []

/-- The problems of an object: those of its fields, as they are declared. If names are checked and
one is no Unicode text, that is the only problem. -/
def Json.Members.report (members : Json.Members) (checksNames : Bool)
    (judge : κ → Json → List Problem) (declarations : List (Declaration κ)) : List Problem :=
  if checksNames && !members.all (·.1.isUnicode) then [⟨[], .unicode⟩]
  else declarations.flatMap fun declaration => declaration.report judge members

variable {α : Type} {judge : κ → Json → List Problem} {kind : κ} {read : Json → Checked α}
  (members : Json.Members)

theorem Json.Members.reports_required (h : ∀ value, (read value).Reports (judge kind value))
    (field : Field) :
    (members.required field read).Reports
      (Declaration.report ⟨field, true, kind⟩ judge members) := by
  unfold required Declaration.report
  cases members.entry? field with
  | none => exact .invalid (List.cons_ne_nil _ _)
  | some entry => exact (h entry.2).under _

theorem Json.Members.reports_optional (h : ∀ value, (read value).Reports (judge kind value))
    (field : Field) (absent : α) : (members.optional field absent read).Reports
      (Declaration.report ⟨field, false, kind⟩ judge members) := by
  unfold optional Declaration.report
  cases members.entry? field with
  | none => exact .valid absent
  | some entry => exact (h entry.2).under _

theorem Json.Members.reports_withUnicodeNames {checked : Checked α}
    {declarations : List (Declaration κ)}
    (h : checked.Reports
      (declarations.flatMap fun declaration => declaration.report judge members)) :
    (members.withUnicodeNames checked).Reports (members.report true judge declarations) := by
  unfold withUnicodeNames report
  cases members.all (·.1.isUnicode) with
  | true => exact h
  | false => exact Checked.reports_mismatch .unicode

end Fields

/-! ## Values with parts -/

/-- What a value of a record has to be. -/
inductive Kind where
  | plain (kind : Plain)
  /-- An object with fields of its own. -/
  | part (name : Text) (declarations : List (Declaration Plain))
  | nullable (kind : Kind)
  | list (kind : Kind)

namespace Kind

/-- The problems of a value. -/
def report (checksNames : Bool) : Kind → Json → List Problem
  | .plain kind, value => kind.report value
  | .part name declarations, value =>
    Json.partReport name (·.report checksNames Plain.report declarations) value
  | .nullable kind, value => Json.nullableReport (kind.report checksNames) value
  | .list kind, value => Json.listReport (kind.report checksNames) value

/-- The values of a kind are those that are read, and the problems of others are those that reading
finds, names included. -/
def IsReadBy {α : Type} (kind : Kind) (read : Json → Checked α) : Prop :=
  ∀ value, (read value).Reports (kind.report true value)

variable {α : Type}

theorem isReadBy_plain {kind : Plain} {read : Json → Checked α} (h : kind.IsReadBy read) :
    IsReadBy (.plain kind) read := h

theorem IsReadBy.nullable {kind : Kind} {read : Json → Checked α} (h : kind.IsReadBy read) :
    IsReadBy (.nullable kind) (Json.readNullable read) :=
  Json.reports_readNullable h

theorem IsReadBy.list {kind : Kind} {read : Json → Checked α} (h : kind.IsReadBy read) :
    IsReadBy (.list kind) (Json.readList read) :=
  Json.reports_readList h

theorem isReadBy_part {declarations : List (Declaration Plain)} {read : Json.Members → Checked α}
    (h : ∀ members : Json.Members,
      (read members).Reports (members.report true Plain.report declarations)) (name : Text) :
    IsReadBy (.part name declarations) (Json.readPart name read) :=
  Json.reports_readPart h name

end Kind

/-! ## Fields that are read -/

section Fields

variable {α : Type} {read : Json → Checked α} (members : Json.Members) (field : Field)

theorem Plain.IsReadBy.required {kind : Plain} (h : kind.IsReadBy read) :
    (members.required field read).Reports
      (Declaration.report ⟨field, true, kind⟩ Plain.report members) :=
  members.reports_required h field

theorem Plain.IsReadBy.optional {kind : Plain} (h : kind.IsReadBy read) (absent : α) :
    (members.optional field absent read).Reports
      (Declaration.report ⟨field, false, kind⟩ Plain.report members) :=
  members.reports_optional h field absent

theorem Kind.IsReadBy.required {kind : Kind} (h : kind.IsReadBy read) :
    (members.required field read).Reports
      (Declaration.report ⟨field, true, kind⟩ (Kind.report true) members) :=
  members.reports_required h field

theorem Kind.IsReadBy.optional {kind : Kind} (h : kind.IsReadBy read) (absent : α) :
    (members.optional field absent read).Reports
      (Declaration.report ⟨field, false, kind⟩ (Kind.report true) members) :=
  members.reports_optional h field absent

theorem Kind.IsReadBy.nullableField {kind : Kind} (h : kind.IsReadBy read) :
    (members.nullable field read).Reports
      (Declaration.report ⟨field, false, .nullable kind⟩ (Kind.report true) members) :=
  h.nullable.optional members field none

end Fields

/-! ## Records -/

/-- The field of launch options. -/
def LaunchOptions.declarations : List (Declaration Plain) :=
  [⟨headlessField, false, .nullable .flag⟩]

/-- The field of a signal. -/
def Signal.declarations : List (Declaration Plain) := [⟨nameField, true, .text⟩]

/-- The fields of a position. -/
def Position.declarations : List (Declaration Plain) :=
  [⟨xField, true, .number⟩, ⟨yField, true, .number⟩]

/-- The fields of a header. -/
def Header.declarations : List (Declaration Kind) :=
  [⟨browserField, false, .plain .browser⟩,
    ⟨launchField, false, .part "LaunchOptions" LaunchOptions.declarations⟩,
    ⟨contextField, false, .plain .dictionary⟩]

/-- The fields of an event. -/
def Event.declarations : List (Declaration Kind) :=
  [⟨nameField, true, .plain .text⟩,
    ⟨selectorField, false, .nullable (.plain .text)⟩,
    ⟨locatorField, false, .plain .any⟩,
    ⟨urlField, false, .nullable (.plain .text)⟩,
    ⟨textField, false, .nullable (.plain .text)⟩,
    ⟨checkedField, false, .nullable (.plain .flag)⟩,
    ⟨clickCountField, false, .nullable (.plain .integer)⟩,
    ⟨substringField, false, .nullable (.plain .flag)⟩,
    ⟨keyField, false, .nullable (.plain .text)⟩,
    ⟨modifiersField, false, .nullable (.plain .integer)⟩,
    ⟨buttonField, false, .nullable (.plain .text)⟩,
    ⟨positionField, false, .nullable (.part "Position" Position.declarations)⟩,
    ⟨optionsField, false, .nullable (.plain .texts)⟩,
    ⟨filesField, false, .nullable (.plain .texts)⟩,
    ⟨valueField, false, .nullable (.plain .text)⟩,
    ⟨snapshotField, false, .nullable (.plain .text)⟩,
    ⟨signalsField, false, .list (.part "Signal" Signal.declarations)⟩,
    ⟨pageField, false, .plain .text⟩,
    ⟨framesField, false, .plain (.list .text)⟩]

section Readers

open Plain

variable (members : Json.Members)

theorem LaunchOptions.reports_read :
    (read members).Reports (members.report true Plain.report declarations) := by
  have hheadless := isReadBy_flag.nullable.optional members headlessField (some true)
  refine members.reports_withUnicodeNames ?_
  simpa [declarations] using (hheadless.map LaunchOptions.mk).seq (.valid (members.extras _))

theorem Signal.reports_read :
    (read members).Reports (members.report true Plain.report declarations) := by
  have hname := isReadBy_text.required members nameField
  refine members.reports_withUnicodeNames ?_
  simpa [declarations] using (hname.map Signal.mk).seq (.valid (members.extras _))

theorem Position.reports_read :
    (read members).Reports (members.report true Plain.report declarations) := by
  have hx := isReadBy_number.required members xField
  have hy := isReadBy_number.required members yField
  refine members.reports_withUnicodeNames ?_
  simpa [declarations] using ((hx.map Position.mk).seq hy).seq (.valid (members.extras _))

/-- Reading a header reports the problems of its fields. -/
theorem Header.reports_read :
    (read members).Reports (members.report true (Kind.report true) declarations) := by
  have hbrowser := (Kind.isReadBy_plain isReadBy_browser).optional members browserField .chromium
  have hlaunch := (Kind.isReadBy_part LaunchOptions.reports_read "LaunchOptions").optional members
    launchField .absent
  have hcontext := (Kind.isReadBy_plain isReadBy_dictionary).optional members contextField []
  refine members.reports_withUnicodeNames ?_
  simpa [declarations] using
    (((hbrowser.map Header.mk).seq hlaunch).seq hcontext).seq (.valid (members.extras _))

/-- Reading an event reports the problems of its fields. -/
theorem Event.reports_read :
    (read members).Reports (members.report true (Kind.report true) declarations) := by
  have htext := (Kind.isReadBy_plain isReadBy_text).nullableField members
  have hflag := (Kind.isReadBy_plain isReadBy_flag).nullableField members
  have hinteger := (Kind.isReadBy_plain isReadBy_integer).nullableField members
  have htexts := (Kind.isReadBy_plain isReadBy_texts).nullableField members
  have hname := (Kind.isReadBy_plain isReadBy_text).required members nameField
  have hlocator := (Kind.isReadBy_plain isReadBy_any).optional members locatorField .null
  have hposition := (Kind.isReadBy_part Position.reports_read "Position").nullableField members
    positionField
  have hsignals := (Kind.isReadBy_part Signal.reports_read "Signal").list.optional members
    signalsField []
  have hpage := (Kind.isReadBy_plain isReadBy_text).optional members pageField primaryPage
  have hframes := (Kind.isReadBy_plain isReadBy_text.list).optional members framesField []
  refine members.reports_withUnicodeNames ?_
  have h5 := ((((hname.map Event.mk).seq (htext selectorField)).seq hlocator).seq
    (htext urlField)).seq (htext textField)
  have h10 := ((((h5.seq (hflag checkedField)).seq (hinteger clickCountField)).seq
    (hflag substringField)).seq (htext keyField)).seq (hinteger modifiersField)
  have h15 := ((((h10.seq (htext buttonField)).seq hposition).seq (htexts optionsField)).seq
    (htexts filesField)).seq (htext valueField)
  have h19 := (((h15.seq (htext snapshotField)).seq hsignals).seq hpage).seq hframes
  simpa only [declarations, List.flatMap_cons, List.flatMap_nil, List.append_assoc,
    List.append_nil] using h19.seq (.valid (members.extras fields))

end Readers

end Playback
