import Playback.Json.Encode
import Playback.Recording.Basic

/-!
# Summary of a recording

`Recording.summaryLines` lists the browser, the launch and context options, and how often each
action and each signal occurs, in the order of their names.
-/

namespace Playback

/-- The distinct names, in order, each with the number of times it occurs. -/
def occurrences (names : List Text) : List (Text × Nat) :=
  (Text.sortedSet names).map fun name => (name, names.count name)

/-- The lines of names and their numbers. -/
def occurrenceLines (names : List Text) : List Text :=
  (occurrences names).map fun (name, count) =>
    "  - " ++ name ++ ": " ++ Text.ofNat count

namespace Recording

/-- The names of all signals, event by event. -/
def signalNames (recording : Recording) : List Text :=
  recording.events.flatMap fun event => event.signals.map Signal.name

/-- The lines of the summary. -/
def summaryLines (recording : Recording) : List Text :=
  let header := recording.header
  let signals := recording.signalNames
  ["- 浏览器: " ++ header.browser.name,
    "- headless: " ++ (Json.bool header.isHeadless).shown,
    "- 上下文参数: " ++ (Json.object header.contextOptions).excerpt 120,
    "- 动作: " ++ Text.ofNat recording.events.length ++ " 个"] ++
    occurrenceLines (recording.events.map Event.name) ++
    (if signals.isEmpty then [] else ("- 信号:" : Text) :: occurrenceLines signals)

end Recording

end Playback
