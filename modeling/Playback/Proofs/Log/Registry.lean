import Playback.Log.Registry
import Playback.Proofs.Assoc

/-!
# Loggers over many calls

A logger is set up by the first call that asks for it, and by no other call. If the environment
names no level at that call, the call fails, and the logger has its handler and the level that it
had before for good.

* `Registry.Call`, `Registry.after`, `Registry.answer`: a call, the loggers after calls, and what a
  further call gives.
* `Registry.get_after`: a logger is what the first call for it made of it.
* `Registry.answer_eq_error_iff`: only the first call for a logger can fail.
* `Registry.AreSetUpOnce`: what is expected of calls: no logger has two handlers, a call that fails
  changes nothing, and the first call that succeeds decides the level for good.
* `Registry.areSetUpOnce_iff`: this is so exactly if the first call for each logger finds a level.
-/

namespace Playback

namespace Registry

/-- A call for a logger, and the name of the level in the environment at that time. -/
structure Call where
  name : Text
  levelName? : Option Text

/-- The level that a call finds in the environment. -/
def Call.level (call : Call) : Except Level.Fault Level :=
  Level.named (call.levelName?.getD "INFO")

/-- The logger that a call makes of one that was not set up. -/
def Call.configured (call : Call) : Logger :=
  ⟨call.level.toOption.getD (fresh call.name).level, 1⟩

/-- The loggers after calls, none of which was set up before. -/
def after (calls : List Call) : Registry :=
  calls.foldl (fun registry call => (registry.logger call.name call.levelName?).2) []

/-- What a call behind others gives. -/
def answer (calls : List Call) (call : Call) : Except Level.Fault Logger :=
  ((after calls).logger call.name call.levelName?).1

/-- The first call for the logger of a name. -/
def first? (calls : List Call) (name : Text) : Option Call :=
  calls.find? fun call => key call.name = key name

/-! ## One call -/

section Step

variable {registry : Registry} {call : Call} {name : Text}

theorem fresh_congr {name other : Text} (h : key name = key other) : fresh name = fresh other := by
  rw [fresh, fresh, h]

theorem get_put (registry : Registry) (name other : Text) (logger : Logger) :
    get (Assoc.put registry (key name) logger) other =
      if key other = key name then logger else registry.get other := by
  unfold get
  rw [Assoc.lookup_put]
  split <;> rfl

/-- A logger that has a handler is left as it is. -/
theorem logger_of_handlers (h : (registry.get call.name).handlers ≠ 0) :
    registry.logger call.name call.levelName? = (.ok (registry.get call.name), registry) := by
  unfold logger
  rw [if_pos h]

/-- A logger that was not set up gets its handler, whether the call finds a level or not. -/
theorem logger_of_fresh (h : registry.get call.name = fresh call.name) :
    registry.logger call.name call.levelName? =
      (call.level.map fun level => ⟨level, 1⟩,
        Assoc.put registry (key call.name) call.configured) := by
  have hhandlers : (fresh call.name).handlers = 0 := rfl
  unfold logger Call.configured Call.level
  rw [h, if_neg (not_not_intro hhandlers)]
  cases Level.named (call.levelName?.getD "INFO") <;> rfl

/-- A call changes no other logger. -/
theorem get_logger_of_ne (h : key name ≠ key call.name) :
    (registry.logger call.name call.levelName?).2.get name = registry.get name := by
  unfold logger
  dsimp only
  split
  · rfl
  · split <;> rw [get_put, if_neg h]

end Step

/-! ## Many calls -/

theorem after_concat (calls : List Call) (call : Call) : after (calls ++ [call]) =
    ((after calls).logger call.name call.levelName?).2 := by
  rw [after, List.foldl_concat]
  rfl

theorem get_congr (registry : Registry) {name other : Text} (h : key name = key other) :
    registry.get name = registry.get other := by
  rw [get, get, h, fresh_congr h]

section Run

variable {calls front back : List Call} {call : Call} {name : Text}

theorem first?_append (front back : List Call) (name : Text) :
    first? (front ++ back) name = (first? front name).or (first? back name) :=
  List.find?_append

theorem first?_congr (calls : List Call) {name other : Text} (h : key name = key other) :
    first? calls name = first? calls other := by
  rw [first?, first?, h]

theorem first?_cons_self (call : Call) (back : List Call) :
    first? (call :: back) call.name = some call :=
  List.find?_cons_of_pos (by simp)

/-- Up to the first call for a logger there is no other one for it. -/
theorem exists_of_first? (h : first? calls name = some call) :
    ∃ front back, calls = front ++ call :: back ∧ key call.name = key name ∧
      first? front name = none := by
  obtain ⟨hkey, front, back, hcalls, hfront⟩ := List.find?_eq_some_iff_append.1 h
  exact ⟨front, back, hcalls, of_decide_eq_true hkey, List.find?_eq_none.2 (by simpa using hfront)⟩

/-- A logger is what the first call for it made of it. -/
theorem get_after (calls : List Call) (name : Text) :
    (after calls).get name = ((first? calls name).map Call.configured).getD (fresh name) := by
  induction calls using List.reverseRecOn with
  | nil => rfl
  | append_singleton calls call ih =>
    rw [after_concat, first?_append]
    by_cases hkey : key call.name = key name
    · have hcall : first? [call] name = some call :=
        (first?_congr _ hkey.symm).trans (first?_cons_self call [])
      rw [← get_congr _ hkey, ← fresh_congr hkey] at ih
      rw [← get_congr _ hkey, hcall]
      cases hfirst : first? calls name with
      | none =>
        rw [hfirst] at ih
        rw [logger_of_fresh ih, get_put, if_pos rfl]
        rfl
      | some first =>
        rw [hfirst] at ih
        rw [logger_of_handlers (by rw [ih]; exact Nat.one_ne_zero)]
        exact ih
    · have hcall : first? [call] name = none := List.find?_cons_of_neg (by simpa using hkey)
      rw [get_logger_of_ne (Ne.symm hkey), ih, hcall, Option.or_none]

theorem get_after_of_first? (h : first? calls name = some call) :
    (after calls).get name = call.configured := by
  rw [get_after, h]
  rfl

theorem get_after_of_first?_eq_none (h : first? calls name = none) :
    (after calls).get name = fresh name := by
  rw [get_after, h]
  rfl

/-- No logger has more than one handler. -/
theorem handlers_get_after_le (calls : List Call) (name : Text) :
    ((after calls).get name).handlers ≤ 1 := by
  rw [get_after]
  cases first? calls name with
  | none => exact Nat.zero_le 1
  | some call => exact Nat.le_refl 1

/-- The first call for a logger gives it with the level that it finds. -/
theorem answer_of_first?_eq_none (h : first? calls call.name = none) :
    answer calls call = call.level.map fun level => ⟨level, 1⟩ := by
  rw [answer, logger_of_fresh (get_after_of_first?_eq_none h)]

/-- Any later call gives the logger as the first one left it. -/
theorem answer_of_first? {first : Call} (h : first? calls call.name = some first) :
    answer calls call = .ok first.configured := by
  have hget := get_after_of_first? h
  rw [answer, logger_of_handlers (by rw [hget]; exact Nat.one_ne_zero), hget]

/-- Only the first call for a logger fails, and that if it finds no level. -/
theorem answer_eq_error_iff {fault : Level.Fault} : answer calls call = .error fault ↔
    first? calls call.name = none ∧ call.level = .error fault := by
  cases hfirst : first? calls call.name with
  | none =>
    rw [answer_of_first?_eq_none hfirst]
    cases call.level <;> simp [Except.map]
  | some first => simp [answer_of_first? hfirst]

/-- What the first call for a logger made of it stays. -/
theorem get_after_append_cons (h : first? calls call.name = none) (more : List Call) :
    (after (calls ++ call :: more)).get call.name = call.configured := by
  refine get_after_of_first? ?_
  rw [first?_append, h, Option.none_or, first?_cons_self]

end Run

/-! ## What is expected of calls -/

/-- No call for the logger of a name succeeded. -/
def NoneSucceeded (calls : List Call) (name : Text) : Prop :=
  ∀ front call back, calls = front ++ call :: back → key call.name = key name →
    ∀ logger, answer front call ≠ .ok logger

/-- Loggers are set up by calls completely or not at all, and once. -/
structure AreSetUpOnce (calls : List Call) : Prop where
  /-- No logger ever has more than one handler. -/
  handlers : ∀ front back, calls = front ++ back → ∀ name, ((after front).get name).handlers ≤ 1
  /-- A call that fails leaves all loggers as they were. -/
  atomic : ∀ front call back, calls = front ++ call :: back →
    ∀ fault, answer front call = .error fault →
      ∀ name, (after (front ++ [call])).get name = (after front).get name
  /-- As long as none has succeeded, a call that finds a level does. -/
  retried : ∀ front call back, calls = front ++ call :: back → NoneSucceeded front call.name →
    ∀ level, call.level = .ok level → ∃ logger, answer front call = .ok logger
  /-- The first call that succeeds decides the level, and later ones leave it. -/
  level : ∀ front call back, calls = front ++ call :: back → NoneSucceeded front call.name →
    ∀ logger, answer front call = .ok logger → call.level = .ok logger.level ∧
      ∀ more, more <+: back → (after (front ++ call :: more)).get call.name = logger

section Expected

variable {calls : List Call}

/-- If the first calls find levels and none for a logger has succeeded, there was none for it. -/
theorem first?_eq_none_of_noneSucceeded {name : Text}
    (hlevels : ∀ call, first? calls name = some call → ∃ level, call.level = .ok level)
    (h : NoneSucceeded calls name) : first? calls name = none := by
  cases hfirst : first? calls name with
  | none => rfl
  | some call =>
    obtain ⟨level, hlevel⟩ := hlevels call hfirst
    obtain ⟨front, back, hcalls, hkey, hnone⟩ := exists_of_first? hfirst
    have hanswer := answer_of_first?_eq_none ((first?_congr front hkey).trans hnone)
    rw [hlevel] at hanswer
    exact absurd hanswer (h front call back hcalls hkey _)

/-- Calls set loggers up once exactly if the first call for each of them finds a level. -/
theorem areSetUpOnce_iff_first : AreSetUpOnce calls ↔
    ∀ name call, first? calls name = some call → ∃ level, call.level = .ok level := by
  constructor
  · -- a first call that fails leaves a handler behind
    intro h name call hfirst
    obtain ⟨front, back, hcalls, hkey, hnone⟩ := exists_of_first? hfirst
    have hnone : first? front call.name = none := (first?_congr front hkey).trans hnone
    cases hlevel : call.level with
    | ok level => exact ⟨level, rfl⟩
    | error fault =>
      have hsame := h.atomic front call back hcalls fault
        (answer_eq_error_iff.2 ⟨hnone, hlevel⟩) call.name
      rw [get_after_append_cons hnone [], get_after_of_first?_eq_none hnone] at hsame
      exact absurd (congrArg Logger.handlers hsame) Nat.one_ne_zero
  · -- a call that nothing has succeeded before is the first one
    intro hlevels
    have hfront {front back : List Call} (hcalls : calls = front ++ back) (name : Text)
        (call : Call) (hfirst : first? front name = some call) :
        ∃ level, call.level = .ok level := by
      refine hlevels name call ?_
      rw [hcalls, first?_append, hfirst, Option.some_or]
    refine ⟨fun front _ _ => handlers_get_after_le front, ?_, ?_, ?_⟩
    · intro front call back hcalls fault hanswer
      obtain ⟨hnone, hlevel⟩ := answer_eq_error_iff.1 hanswer
      have hfirst : first? calls call.name = some call := by
        rw [hcalls, first?_append, hnone, Option.none_or, first?_cons_self]
      obtain ⟨level, hok⟩ := hlevels _ call hfirst
      cases hlevel.symm.trans hok
    · intro front call back hcalls hnone level hlevel
      have hnone := first?_eq_none_of_noneSucceeded (hfront hcalls call.name) hnone
      rw [answer_of_first?_eq_none hnone, hlevel]
      exact ⟨_, rfl⟩
    · intro front call back hcalls hnone logger hanswer
      have hnone := first?_eq_none_of_noneSucceeded (hfront hcalls call.name) hnone
      rw [answer_of_first?_eq_none hnone] at hanswer
      cases hlevel : call.level with
      | error fault =>
        rw [hlevel] at hanswer
        cases hanswer
      | ok level =>
        rw [hlevel] at hanswer
        cases hanswer
        refine ⟨rfl, fun more _ => ?_⟩
        rw [get_after_append_cons hnone, Call.configured, hlevel]
        rfl

end Expected

/-- Only the first call for a logger can fail, and what it made of the logger stays: one handler,
and the level that it found or, if it found none, the level that the logger had. So all is as
expected exactly if the first call for each logger finds a level. -/
theorem areSetUpOnce_iff (calls : List Call) :
    (∀ name, ((after calls).get name).handlers ≤ 1) ∧
    (∀ call fault, answer calls call = .error fault ↔
      first? calls call.name = none ∧ call.level = .error fault) ∧
    (∀ call fault, answer calls call = .error fault → ∀ more : List Call,
      (after (calls ++ call :: more)).get call.name = ⟨((after calls).get call.name).level, 1⟩) ∧
    (∀ call level, first? calls call.name = none → call.level = .ok level →
      answer calls call = .ok ⟨level, 1⟩ ∧
        ∀ more : List Call, (after (calls ++ call :: more)).get call.name = ⟨level, 1⟩) ∧
    (∀ call name, key name ≠ key call.name →
      (after (calls ++ [call])).get name = (after calls).get name) ∧
    (AreSetUpOnce calls ↔
      ∀ name call, first? calls name = some call → ∃ level, call.level = .ok level) := by
  refine ⟨handlers_get_after_le calls, fun _ _ => answer_eq_error_iff, ?_, ?_, ?_,
    areSetUpOnce_iff_first⟩
  · intro call fault hanswer more
    obtain ⟨hnone, hlevel⟩ := answer_eq_error_iff.1 hanswer
    rw [get_after_append_cons hnone, get_after_of_first?_eq_none hnone, Call.configured, hlevel]
    rfl
  · intro call level hnone hlevel
    refine ⟨by rw [answer_of_first?_eq_none hnone, hlevel]; rfl, fun more => ?_⟩
    rw [get_after_append_cons hnone, Call.configured, hlevel]
    rfl
  · intro call name hne
    rw [after_concat, get_logger_of_ne hne]

/-- The root of all loggers, which is the nameless one, stays at warnings. -/
example : (after [⟨[], some "BASIC_FORMAT"⟩]).get rootName = ⟨Level.warning, 1⟩ := by
  decide +kernel

/-- The name of a layout is in the log and is no level: the call fails, and the next one finds a
logger that has a handler. -/
theorem not_areSetUpOnce_layout :
    let failing : Call := ⟨"a", some "BASIC_FORMAT"⟩
    let retry : Call := ⟨"a", some "INFO"⟩
    answer [] failing = .error (.unknown Level.layout) ∧
      (after [failing]).get "a" ≠ (after []).get "a" ∧ retry.level = .ok Level.info ∧
      answer [failing] retry = .ok ⟨0, 1⟩ ∧ ¬ AreSetUpOnce [failing, retry] := by
  intro failing retry
  have hlevel : failing.level = .error (.unknown Level.layout) := by rfl
  refine ⟨rfl, by decide +kernel, by rfl, rfl, fun h => ?_⟩
  obtain ⟨level, hok⟩ := areSetUpOnce_iff_first.1 h "a" failing rfl
  cases hlevel.symm.trans hok

end Registry

end Playback
