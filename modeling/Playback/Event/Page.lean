import Playback.Program.Expression
import Playback.Recording.Event

/-!
# Pages and frames

* `Event.page`: the name of an event's page in the program. The page that a recording starts with is
  `pg`; any other is `pg_` and its alias, with a low line for what a name cannot hold.
* `Expression.inFrames`: the frame that a path of selectors leads to from a page.
* `Event.root`: the page or frame that the target of an event is looked for in.
-/

namespace Playback

/-- A code point of an alias as it stands in a name. -/
def CodePoint.inName (p : CodePoint) : CodePoint :=
  if p.isAsciiLetter || p.isAsciiDigit then p else .char '_'

/-- The name of the page of an alias. -/
def pageName (pageAlias : Text) : Text :=
  if pageAlias.isEmpty || pageAlias == Event.primaryPage then "pg"
  else "pg_" ++ pageAlias.map CodePoint.inName

/-- The name of an event's page. -/
def Event.page (event : Event) : Text := pageName event.pageAlias

/-- The frame that a path of selectors leads to. -/
def Expression.inFrames (root : Expression) (path : List Text) : Expression :=
  path.foldl
    (fun root selector => .member (root.invoke "locator" [.text selector]) "content_frame") root

/-- The page or frame that the target of an event is looked for in. -/
def Event.root (event : Event) : Expression := (Expression.name event.page).inFrames event.framePath

end Playback
