import Mathlib.Data.List.Forall2
import Playback.Schema.Member

/-!
# When checked values are valid

* `Checked.map_eq_valid_iff`, `Checked.seq_eq_valid_iff`: a function of checked values is valid if
  each of them is.
* `Json.readList_eq_valid_iff`: a list is valid if each of its items is.
* `Json.Members.required_eq_valid_iff`, `Json.Members.optional_eq_valid_iff`: a field is valid if
  the member that it is read from is, and an optional one if there is no such member.
* `Json.Members.withUnicodeNames_eq_valid_iff`: the same of all that is read of an object.
* `Json.Members.required_of_get?`, `Json.Members.optional_of_get?`: a field with one name, from the
  value of the member. `Json.Members.get?_of_required_text`: the member, from a text that is read.
-/

namespace Playback

namespace Checked

variable {α β : Type}

theorem value?_eq_some_iff {checked : Checked α} {a : α} :
    checked.value? = some a ↔ checked = .valid a := by
  cases checked <;> simp [value?]

theorem map_eq_valid_iff {f : α → β} {checked : Checked α} {b : β} :
    f <$> checked = .valid b ↔ ∃ a, checked = .valid a ∧ f a = b := by
  show map f checked = .valid b ↔ _
  cases checked <;> simp [map]

theorem seq_eq_valid_iff {f : Checked (α → β)} {checked : Checked α} {b : β} :
    f <*> checked = .valid b ↔ ∃ g a, f = .valid g ∧ checked = .valid a ∧ g a = b := by
  show map (fun p : (α → β) × α => p.1 p.2) (both f checked) = .valid b ↔ _
  cases f <;> cases checked <;> simp [both, map]

theorem under_eq_valid_iff {step : PathStep} {checked : Checked α} {a : α} :
    checked.under step = .valid a ↔ checked = .valid a := by
  cases checked <;> simp [under]

theorem listFrom_eq_valid_iff {read : β → Checked α} {position : Nat} {items : List β}
    {values : List α} : listFrom read position items = .valid values ↔
      List.Forall₂ (fun item a => read item = .valid a) items values := by
  induction items generalizing position values with
  | nil => simp [listFrom, eq_comm]
  | cons item items ih =>
    rw [listFrom, seq_eq_valid_iff]
    constructor
    · rintro ⟨_, rest, hfirst, hrest, rfl⟩
      obtain ⟨a, ha, rfl⟩ := map_eq_valid_iff.1 hfirst
      exact .cons (under_eq_valid_iff.1 ha) (ih.1 hrest)
    · rintro (_ | ⟨ha, hrest⟩)
      exact ⟨_, _, map_eq_valid_iff.2 ⟨_, under_eq_valid_iff.2 ha, rfl⟩, ih.2 hrest, rfl⟩

end Checked

theorem Json.readList_eq_valid_iff {α : Type} {read : Json → Checked α} {value : Json}
    {values : List α} : readList read value = .valid values ↔
      ∃ items, value = .list items ∧
        List.Forall₂ (fun item a => read item = .valid a) items values := by
  cases value with
  | list items => simp [readList, Checked.list, Checked.listFrom_eq_valid_iff]
  | null | bool | number | text | object => simp [readList, Checked.mismatch]

theorem Json.readText_eq_valid_iff {value : Json} {t : Text} :
    readText value = .valid t ↔ value = .text t := by
  cases value <;> simp [readText, Checked.mismatch]

namespace Json.Members

variable {α : Type} {members : Members} {field : Field} {read : Json → Checked α} {a : α}

theorem required_eq_valid_iff : members.required field read = .valid a ↔
    ∃ entry, members.entry? field = some entry ∧ read entry.2 = .valid a := by
  unfold required
  cases members.entry? field with
  | none => simp
  | some entry => simp [Checked.under_eq_valid_iff]

theorem optional_eq_valid_iff {absent : α} : members.optional field absent read = .valid a ↔
    (members.entry? field = none ∧ absent = a) ∨
      ∃ entry, members.entry? field = some entry ∧ read entry.2 = .valid a := by
  unfold optional
  cases members.entry? field with
  | none => simp
  | some entry => simp [Checked.under_eq_valid_iff]

theorem withUnicodeNames_eq_valid_iff {checked : Checked α} :
    members.withUnicodeNames checked = .valid a ↔
      (∀ member ∈ members, member.1.isUnicode) ∧ checked = .valid a := by
  unfold withUnicodeNames
  split
  · next h => exact ⟨fun hc => ⟨List.all_eq_true.1 h, hc⟩, And.right⟩
  · next h =>
    constructor
    · intro hm
      cases hm
    · rintro ⟨hall, -⟩
      exact absurd (List.all_eq_true.2 hall) h

/-- A field with one name is read from the member of that name. -/
theorem entry?_eq (members : Members) (name : Text) :
    members.entry? { name := name } = (members.get? name).map (name, ·) := by
  unfold entry?
  cases members.get? name <;> rfl

section Fields

variable {name : Text} {value : Json} {absent : α}

theorem required_of_get? (h : members.get? name = some value) (hread : read value = .valid a) :
    members.required { name := name } read = .valid a :=
  required_eq_valid_iff.2 ⟨(name, value), by rw [entry?_eq, h]; rfl, hread⟩

theorem optional_of_get? (h : members.get? name = some value) (hread : read value = .valid a) :
    members.optional { name := name } absent read = .valid a :=
  optional_eq_valid_iff.2 (.inr ⟨(name, value), by rw [entry?_eq, h]; rfl, hread⟩)

theorem optional_of_missing (h : members.get? name = none) :
    members.optional { name := name } absent read = .valid absent :=
  optional_eq_valid_iff.2 (.inl ⟨by rw [entry?_eq, h]; rfl, rfl⟩)

/-- A text that must be there is that of the member. -/
theorem get?_of_required_text {t : Text}
    (h : members.required { name := name } readText = .valid t) :
    members.get? name = some (.text t) := by
  obtain ⟨entry, hentry, hread⟩ := required_eq_valid_iff.1 h
  rw [entry?_eq, Option.map_eq_some_iff] at hentry
  obtain ⟨value, hvalue, rfl⟩ := hentry
  exact hvalue.trans (congrArg some (readText_eq_valid_iff.1 hread))

/-- A text that may be missing. -/
theorem nullable_text {t? : Option Text} (h : members.get? name = t?.map .text) :
    members.nullable { name := name } readText = .valid t? := by
  cases t? with
  | none => exact optional_of_missing h
  | some t => exact optional_of_get? h rfl

end Fields

end Json.Members

end Playback
