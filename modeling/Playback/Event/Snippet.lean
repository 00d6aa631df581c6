import Playback.Event.Action
import Playback.Event.Signal

/-!
# The snippet of an event

`Event.snippet` is the code of an event's action with the code of its signals around it.
-/

namespace Playback

/-- The snippet of an event. -/
def Event.snippet (event : Event) : Run Snippet := do
  let snippet ← event.actionSnippet
  .ofExcept (snippet.surroundAll event.page event.record (event.signals.map Signal.name))

end Playback
