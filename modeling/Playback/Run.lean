import Playback.Error
import Playback.Log.Notice

/-!
# Runs

A run logs notices in order and ends with a value or with the first error. What was logged before
the error stays.
-/

namespace Playback

/-- What was logged, and what came out. -/
structure Run (α : Type) where
  log : Log
  result : Except Error α

namespace Run

variable {α β : Type}

/-- A run that ends with a value and logs nothing. -/
protected def pure (a : α) : Run α := ⟨[], .ok a⟩

/-- A run that continues with the value of the first one, if that has one. -/
protected def bind (run : Run α) (next : α → Run β) : Run β :=
  match run.result with
  | .ok a => ⟨run.log ++ (next a).log, (next a).result⟩
  | .error error => ⟨run.log, .error error⟩

instance : Monad Run where
  pure := Run.pure
  bind := Run.bind

/-- A run that logs one notice. -/
def notice (n : Notice) : Run Unit := ⟨[n], .ok ()⟩

/-- A run that logs notices. -/
def notices (log : Log) : Run Unit := ⟨log, .ok ()⟩

/-- A run that logs nothing. -/
def ofExcept (result : Except Error α) : Run α := ⟨[], result⟩

/-- A run that ends with an error. -/
def fail (error : Error) : Run α := ⟨[], .error error⟩

end Run

end Playback
