import Playback.Run

/-!
# Runs in steps

What a run logs does not touch what comes out of it: the result of a run in steps is that of its
steps, one after the other (`Run.result_bind`). What it logs is what its steps log, up to the first
one without a value (`Run.bind_of_ok`, `Run.bind_of_error`).
-/

namespace Playback

namespace Run

variable {α β : Type}

@[simp] theorem result_pure (a : α) : (pure a : Run α).result = .ok a := rfl

@[simp] theorem result_fail (error : Error) : (fail error : Run α).result = .error error := rfl

@[simp] theorem result_ofExcept (result : Except Error α) : (ofExcept result).result = result := rfl

@[simp] theorem result_notice (n : Notice) : (notice n).result = .ok () := rfl

@[simp] theorem result_notices (log : Log) : (notices log).result = .ok () := rfl

@[simp] theorem result_bind (run : Run α) (next : α → Run β) :
    (run >>= next).result = run.result >>= fun a => (next a).result := by
  show (Run.bind run next).result = _
  unfold Run.bind
  cases run.result <;> rfl

/-- A run in two steps has a value if the first step has one with which the second has it. -/
theorem result_bind_eq_ok {run : Run α} {next : α → Run β} {b : β} :
    (run >>= next).result = .ok b ↔ ∃ a, run.result = .ok a ∧ (next a).result = .ok b := by
  rw [result_bind]
  cases run.result with
  | error error => simp [bind, Except.bind]
  | ok a => simp [bind, Except.bind]

theorem bind_of_ok {run : Run α} {next : α → Run β} {a : α} (h : run.result = .ok a) :
    run >>= next = ⟨run.log ++ (next a).log, (next a).result⟩ := by
  show Run.bind run next = _
  unfold Run.bind
  rw [h]

theorem bind_of_error {run : Run α} {next : α → Run β} {error : Error}
    (h : run.result = .error error) : run >>= next = ⟨run.log, .error error⟩ := by
  show Run.bind run next = _
  unfold Run.bind
  rw [h]

end Run

end Playback
