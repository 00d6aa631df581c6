import Playback.Assoc
import Playback.Log.Level

/-!
# Loggers

Loggers are known by their names and set up when they are first asked for: a logger gets one
handler, and after it the level that the environment names at that time. A logger that has a handler
is never set up again, even if its first set-up failed at the level.

* `Logger`, and `Registry` the loggers that were asked for.
* `Registry.fresh`: a logger that was not set up. Only the root of all loggers has a level then.
* `Registry.logger`: the logger of a name, set up if it has no handler yet, and the registry after
  it.
-/

namespace Playback

/-- The state of a logger. -/
structure Logger where
  level : Level
  handlers : Nat
  deriving DecidableEq

/-- The loggers that were asked for, by name. -/
abbrev Registry := List (Text × Logger)

namespace Registry

/-- The name of the root of all loggers. -/
def rootName : Text := "root"

/-- The name that a logger is kept under: the nameless one is the root of all. -/
def key (name : Text) : Text := if name.isEmpty then rootName else name

/-- The logger of a name before it is set up. -/
def fresh (name : Text) : Logger :=
  ⟨if key name = rootName then Level.warning else Level.unset, 0⟩

/-- The state of the logger of a name. -/
def get (registry : Registry) (name : Text) : Logger :=
  (List.lookup (key name) registry).getD (fresh name)

/-- The logger of a name, set up with the level of `levelName?` if it has no handler, and the
registry after that. -/
def logger (registry : Registry) (name : Text) (levelName? : Option Text) :
    Except Level.Fault Logger × Registry :=
  let found := registry.get name
  if found.handlers ≠ 0 then (.ok found, registry)
  else
    match Level.named (levelName?.getD "INFO") with
    | .ok level =>
      let configured : Logger := ⟨level, 1⟩
      (.ok configured, Assoc.put registry (key name) configured)
    | .error fault => (.error fault, Assoc.put registry (key name) { found with handlers := 1 })

end Registry

end Playback
