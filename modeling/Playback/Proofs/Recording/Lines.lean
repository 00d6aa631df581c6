import Playback.Proofs.Except
import Playback.Recording.Basic
import Playback.Text.Blank

/-!
# The lines of a recording

* `recordLinesOf`: the lines that are not blank. `Recording.numberedFrom_eq_append_cons_iff` says
  which number each of them has.
* `ReadsAs`: a line is a record that is read as a value.
* `NotAnObject`, `Refused`: what a line is not a record for, and what it is not a record of its kind
  for. `IsHuge`: a line that cannot be decoded for the size of a number.
* `Recording.readLine_eq_error_iff`, `Recording.readEvent_eq_error_iff`: the errors of a line.
-/

namespace Playback

/-- The lines that are not blank. -/
def recordLinesOf (lines : List Text) : List Text := lines.filter (!·.isBlank)

/-- The line is the object with these members. -/
def DecodesTo (line : Text) (members : Json.Members) : Prop :=
  Json.decode line = .ok (.object members)

/-- A line that is not an object: it is no JSON, or JSON of another kind. -/
inductive NotAnObject (line : Text) : Defect → Prop
  | json {fault : Json.Fault} (h : Json.decode line = .error fault)
    (hn : ∀ digits, fault ≠ .hugeNumber digits) : NotAnObject line (.json fault)
  | kind {value : Json} (h : Json.decode line = .ok value)
    (hv : ∀ members, value ≠ .object members) : NotAnObject line (.notAnObject value.kind)

/-- A line with a whole number of so many digits that it is not read. -/
def IsHuge (line : Text) (digits : Nat) : Prop := Json.decode line = .error (.hugeNumber digits)

section Records

variable {α : Type} (read : Json.Members → Checked α)

/-- The line is a record that is read as `value`. -/
def ReadsAs (line : Text) (value : α) : Prop :=
  ∃ members, DecodesTo line members ∧ read members = .valid value

/-- The line is no record that can be read: no object, or one with problems. With the defect goes
the record that the error shows. -/
inductive Refused (line : Text) : Defect → Json.Members → Prop
  | notAnObject {defect : Defect} (h : NotAnObject line defect) : Refused line defect []
  | problems {members : Json.Members} {problems : List Problem} (h : DecodesTo line members)
    (hr : read members = .invalid problems) : Refused line (.problems problems) members

end Records

namespace Recording

variable {number : Nat} {line : Text} {members : Json.Members} {error : Error}

theorem readLine_eq_ok_iff : readLine number line = .ok members ↔ DecodesTo line members := by
  unfold readLine DecodesTo
  split <;> simp_all

theorem readLine_of_notAnObject {defect : Defect} (h : NotAnObject line defect) (number : Nat) :
    readLine number line = .error (.malformed number defect []) := by
  unfold readLine
  cases h with
  | @json fault h hn =>
    rw [h]
    cases fault with
    | hugeNumber digits => exact absurd rfl (hn digits)
    | _ => rfl
  | @kind value h hv =>
    rw [h]
    cases value with
    | object members => exact absurd rfl (hv members)
    | _ => rfl

theorem readLine_of_isHuge {digits : Nat} (h : IsHuge line digits) (number : Nat) :
    readLine number line = .error (.integer (.tooManyDigits digits)) := by
  unfold readLine
  rw [h]

/-- Every line is an object, is not one, or has a number that is not read. -/
theorem readLine_cases (line : Text) : (∃ members, DecodesTo line members) ∨
    (∃ defect, NotAnObject line defect) ∨ ∃ digits, IsHuge line digits := by
  cases h : Json.decode line with
  | error fault =>
    by_cases hn : ∃ digits, fault = .hugeNumber digits
    · obtain ⟨digits, rfl⟩ := hn
      exact .inr (.inr ⟨digits, h⟩)
    · exact .inr (.inl ⟨_, .json h fun digits hd => hn ⟨digits, hd⟩⟩)
  | ok value =>
    by_cases hv : ∃ members, value = .object members
    · obtain ⟨members, rfl⟩ := hv
      exact .inl ⟨members, h⟩
    · exact .inr (.inl ⟨_, .kind h fun members hm => hv ⟨members, hm⟩⟩)

theorem readLine_eq_error_iff : readLine number line = .error error ↔
    (∃ defect, NotAnObject line defect ∧ error = .malformed number defect []) ∨
    ∃ digits, IsHuge line digits ∧ error = .integer (.tooManyDigits digits) := by
  constructor
  · intro h
    rcases readLine_cases line with ⟨members, hd⟩ | ⟨defect, hd⟩ | ⟨digits, hd⟩
    · rw [readLine_eq_ok_iff.2 hd] at h
      cases h
    · rw [readLine_of_notAnObject hd] at h
      exact .inl ⟨defect, hd, (Except.error.inj h).symm⟩
    · rw [readLine_of_isHuge hd] at h
      exact .inr ⟨digits, hd, (Except.error.inj h).symm⟩
  · rintro (⟨defect, hd, rfl⟩ | ⟨digits, hd, rfl⟩)
    · exact readLine_of_notAnObject hd number
    · exact readLine_of_isHuge hd number

section Records

variable {α : Type} {read : Json.Members → Checked α} {value : α}

theorem readRecord_eq_ok_iff :
    readRecord read number members = .ok value ↔ read members = .valid value := by
  unfold readRecord
  cases read members <;> simp

theorem readRecord_eq_error_iff : readRecord read number members = .error error ↔
    ∃ problems, read members = .invalid problems ∧
      error = .malformed number (.problems problems) members := by
  unfold readRecord
  cases read members <;> simp [eq_comm]

end Records

theorem readEvent_eq_ok_iff {event : Event} :
    readEvent number line = .ok event ↔ ReadsAs Event.read line event := by
  simp only [readEvent, bind_eq_ok_iff, readLine_eq_ok_iff, readRecord_eq_ok_iff, ReadsAs]

/-- The error of an event's line names the line, unless a number of it is not read. -/
theorem readEvent_eq_error_iff : readEvent number line = .error error ↔
    (∃ defect record, Refused Event.read line defect record ∧
      error = .malformed number defect record) ∨
    ∃ digits, IsHuge line digits ∧ error = .integer (.tooManyDigits digits) := by
  simp only [readEvent, bind_eq_error_iff, readLine_eq_ok_iff, readLine_eq_error_iff,
    readRecord_eq_error_iff]
  constructor
  · rintro ((⟨defect, hd, rfl⟩ | huge) | ⟨members, hm, problems, hp, rfl⟩)
    · exact .inl ⟨defect, [], .notAnObject hd, rfl⟩
    · exact .inr huge
    · exact .inl ⟨_, members, .problems hm hp, rfl⟩
  · rintro (⟨defect, record, hr | ⟨hm, hp⟩, rfl⟩ | huge)
    · exact .inl (.inl ⟨defect, ‹_›, rfl⟩)
    · exact .inr ⟨record, hm, _, hp, rfl⟩
    · exact .inl (.inr huge)

/-- The lines that are not blank, each with its number, where the first line has the number
`first`. -/
def numberedFrom (first : Nat) (lines : List Text) : List (Text × Nat) :=
  (lines.zipIdx first).filter fun (line, _) => !line.isBlank

theorem numberedLines_eq (text : Text) : numberedLines text = numberedFrom 1 text.lines := rfl

theorem numberedFrom_cons (first : Nat) (line : Text) (lines : List Text) :
    numberedFrom first (line :: lines) =
      if line.isBlank then numberedFrom (first + 1) lines
      else (line, first) :: numberedFrom (first + 1) lines := by
  unfold numberedFrom
  rw [List.zipIdx_cons]
  cases h : line.isBlank
  · rw [List.filter_cons_of_pos (by simp [h])]
    rfl
  · rw [List.filter_cons_of_neg (by simp [h])]
    rfl

theorem numberedFrom_append (first : Nat) (before after : List Text) :
    numberedFrom first (before ++ after) =
      numberedFrom first before ++ numberedFrom (first + before.length) after := by
  unfold numberedFrom
  rw [List.zipIdx_append, List.filter_append]

theorem map_fst_numberedFrom (first : Nat) (lines : List Text) :
    (numberedFrom first lines).map Prod.fst = recordLinesOf lines := by
  unfold recordLinesOf
  induction lines generalizing first with
  | nil => rfl
  | cons line lines ih =>
    rw [numberedFrom_cons]
    cases h : line.isBlank
    · rw [List.filter_cons_of_pos (by simp [h])]
      simp [ih]
    · rw [List.filter_cons_of_neg (by simp [h])]
      simp [ih]

/-- A line has the number of the lines in front of it, blank ones included, and one more. -/
theorem numberedFrom_eq_append_cons_iff {first number : Nat} {lines : List Text} {line : Text}
    {front back : List (Text × Nat)} :
    numberedFrom first lines = front ++ (line, number) :: back ↔ ∃ before after,
      lines = before ++ line :: after ∧ line.isBlank = false ∧ number = first + before.length ∧
      numberedFrom first before = front ∧ numberedFrom (number + 1) after = back := by
  constructor
  · intro h
    induction lines generalizing first front with
    | nil => simp [numberedFrom] at h
    | cons next lines ih =>
      rw [numberedFrom_cons] at h
      cases hb : next.isBlank
      · rw [hb, if_neg Bool.false_ne_true] at h
        cases front with
        | nil =>
          cases h
          exact ⟨[], lines, rfl, hb, rfl, rfl, rfl⟩
        | cons entry front =>
          obtain ⟨hentry, hrest⟩ := List.cons_eq_cons.1 h
          obtain ⟨before, after, rfl, hline, hnumber, hfront, hback⟩ := ih hrest
          refine ⟨next :: before, after, rfl, hline, ?_, ?_, hback⟩
          · rw [List.length_cons]
            omega
          · rw [numberedFrom_cons, hb, if_neg Bool.false_ne_true, hfront, hentry]
      · rw [hb, if_pos rfl] at h
        obtain ⟨before, after, rfl, hline, hnumber, hfront, hback⟩ := ih h
        refine ⟨next :: before, after, rfl, hline, ?_, ?_, hback⟩
        · rw [List.length_cons]
          omega
        · rw [numberedFrom_cons, hb, if_pos rfl, hfront]
  · rintro ⟨before, after, rfl, hb, rfl, rfl, rfl⟩
    rw [numberedFrom_append, numberedFrom_cons, hb, if_neg Bool.false_ne_true]

end Recording

end Playback
