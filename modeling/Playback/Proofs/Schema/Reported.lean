import Playback.Proofs.Schema.Checked

/-!
# What checked values report

* `Checked.Reports`: the problems of a checked value. There is a value exactly if there are none.
* `Checked.Reports.map`, `Checked.Reports.seq`: a function of checked values reports the problems of
  all of them, in order.
* `Json.nullableReport`, `Json.eitherReport`, `Json.listReport`, `Json.partReport`: the problems of
  a value that may be `null`, of one that has two alternatives, of a list and of a named part.
  `Json.reports_readList` and its like: this is what reading such a value reports.
-/

namespace Playback

namespace Checked

variable {α β : Type}

/-- The problems in the way of the value. -/
def problems : Checked α → List Problem
  | .valid _ => []
  | .invalid problems => problems

/-- The checked value has these problems, and is there exactly if there are none. -/
inductive Reports : Checked α → List Problem → Prop
  | valid (a : α) : Reports (.valid a) []
  | invalid {problems : List Problem} (h : problems ≠ []) : Reports (.invalid problems) problems

variable {checked : Checked α} {found later : List Problem}

theorem reports_mismatch (m : Mismatch) : (mismatch m : Checked α).Reports [⟨[], m⟩] :=
  .invalid (List.cons_ne_nil _ _)

/-- A checked value that is not invalid without a problem has its problems. -/
theorem reports_problems (h : checked ≠ .invalid []) : checked.Reports checked.problems := by
  cases checked with
  | valid a => exact .valid a
  | invalid problems => exact .invalid fun hnil => h (congrArg _ hnil)

namespace Reports

theorem exists_valid_iff (h : checked.Reports found) :
    (∃ a, checked = .valid a) ↔ found = [] := by
  cases h with
  | valid a => exact iff_of_true ⟨a, rfl⟩ rfl
  | invalid hne => exact iff_of_false (fun ⟨_, ha⟩ => nomatch ha) hne

theorem eq_problems (h : checked.Reports found) : checked.problems = found := by
  cases h <;> rfl

theorem map (h : checked.Reports found) (f : α → β) : (f <$> checked).Reports found := by
  cases h with
  | valid a => exact .valid (f a)
  | invalid hne => exact .invalid hne

theorem seq {f : Checked (α → β)} (hf : f.Reports found) (h : checked.Reports later) :
    (f <*> checked).Reports (found ++ later) := by
  cases hf with
  | valid f =>
    cases h with
    | valid a => exact .valid (f a)
    | invalid hne => exact .invalid hne
  | invalid hne =>
    cases h with
    | valid a =>
      rw [List.append_nil]
      exact .invalid hne
    | invalid _ => exact .invalid (List.append_ne_nil_of_left_ne_nil hne _)

theorem under (h : checked.Reports found) (step : PathStep) :
    (checked.under step).Reports (found.map (Problem.under step)) := by
  cases h with
  | valid a => exact .valid a
  | invalid hne => exact .invalid (mt List.map_eq_nil_iff.1 hne)

end Reports

/-- The items of a list report under their positions. -/
theorem reports_listFrom {read : β → Checked α} {report : β → List Problem}
    (h : ∀ item, (read item).Reports (report item)) (position : Nat) (items : List β) :
    (listFrom read position items).Reports ((items.zipIdx position).flatMap fun (item, position) =>
      (report item).map (Problem.under (.index position))) := by
  induction items generalizing position with
  | nil => exact .valid []
  | cons item items ih => exact (((h item).under _).map _).seq (ih (position + 1))

end Checked

namespace Json

open Checked (Reports reports_mismatch)

variable {α : Type}

/-- What is reported of a value that may be `null`. -/
def nullableReport (report : Json → List Problem) (value : Json) : List Problem :=
  if value.isNull then [] else report value

/-- What is reported of a value that has two alternatives: nothing if it is one of them, and else
the problems of both under their names. -/
def eitherReport (first : Text) (report : Json → List Problem) (second : Text)
    (report' : Json → List Problem) (value : Json) : List Problem :=
  if report value = [] ∨ report' value = [] then []
  else (report value).map (Problem.under (.key first)) ++
    (report' value).map (Problem.under (.key second))

/-- What is reported of a list: the problems of its items under their positions. -/
def listReport (report : Json → List Problem) : Json → List Problem
  | .list items => items.zipIdx.flatMap fun (item, position) =>
    (report item).map (Problem.under (.index position))
  | _ => [⟨[], .list⟩]

/-- What is reported of a part of a record, which is an object. -/
def partReport (name : Text) (report : Members → List Problem) : Json → List Problem
  | .object members => report members
  | _ => [⟨[], .part name⟩]

theorem reports_readPart {read : Members → Checked α} {report : Members → List Problem}
    (h : ∀ members, (read members).Reports (report members)) (name : Text) (value : Json) :
    (readPart name read value).Reports (partReport name report value) := by
  cases value with
  | object members => exact h members
  | null | bool | number | text | list => exact reports_mismatch (.part name)

section Readers

variable {read : Json → Checked α} {report : Json → List Problem}
  (h : ∀ value, (read value).Reports (report value))

include h

theorem reports_readNullable (value : Json) :
    (readNullable read value).Reports (nullableReport report value) := by
  cases value with
  | null => exact .valid none
  | bool | number | text | list | object => exact (h _).map some

theorem reports_readList (value : Json) :
    (readList read value).Reports (listReport report value) := by
  cases value with
  | list items => exact Checked.reports_listFrom h 0 items
  | null | bool | number | text | object => exact reports_mismatch .list

end Readers

/-! ## Texts, flags and numbers -/

theorem reports_readText (value : Json) : (readText value).Reports (readText value).problems :=
  Checked.reports_problems <| by fun_cases readText value <;> nofun

theorem reports_readFlag (value : Json) : (readFlag value).Reports (readFlag value).problems := by
  have hword (i : Int) : flagOfWord i ≠ .invalid [] := by
    fun_cases flagOfWord i <;> nofun
  refine Checked.reports_problems ?_
  fun_cases readFlag value <;> first | exact hword _ | nofun

theorem reports_readInteger (value : Json) :
    (readInteger value).Reports (readInteger value).problems := by
  have htext (t : Text) : WholeNumber.read t ≠ .invalid [] := by
    fun_cases WholeNumber.read t <;> nofun
  refine Checked.reports_problems ?_
  fun_cases readInteger value <;> first | exact htext _ | nofun

theorem reports_readFloatingPoint (value : Json) :
    (readFloatingPoint value).Reports (readFloatingPoint value).problems :=
  Checked.reports_problems <| by fun_cases readFloatingPoint value <;> nofun

/-! ## Two alternatives -/

section Alternatives

variable {first second : Text} {found later : List Problem}

theorem eitherReport_of_right {report report' : Json → List Problem} {value : Json}
    (h : report' value = []) : eitherReport first report second report' value = [] :=
  if_pos (.inr h)

theorem reports_eitherOf (hfound : found ≠ []) (hlater : later ≠ []) :
    (Checked.eitherOf first found second later : Checked α).Reports
      (if found = [] ∨ later = [] then [] else found.map (Problem.under (.key first)) ++
        later.map (Problem.under (.key second))) := by
  rw [if_neg (not_or.2 ⟨hfound, hlater⟩)]
  exact .invalid (List.append_ne_nil_of_left_ne_nil (mt List.map_eq_nil_iff.1 hfound) _)

end Alternatives

end Json

end Playback
