import Playback.Json.Basic
import Playback.Text.Shown

/-!
# JSON values shown for a reader

Messages and banners show a value in the notation of the generated program's language: `None`,
`True`, `False`, texts in single quotes, objects in braces.

* `Json.shown`: a value in that notation.
* `Json.displayed`: the same, but a text stands without its quotes.
-/

namespace Playback

namespace Json

mutual

/-- A value in the notation of messages. -/
def shown : Json → Text
  | .null => "None"
  | .bool value => if value then "True" else "False"
  | .number value => value.shown
  | .text value => value.shown
  | .list items => "[" ++ Text.joined ", " (shownItems items) ++ "]"
  | .object members => "\x7b" ++ Text.joined ", " (shownMembers members) ++ "\x7d"

/-- The items of a list in the notation of messages. -/
def shownItems : List Json → List Text
  | [] => []
  | item :: items => item.shown :: shownItems items

/-- The members of an object in the notation of messages. -/
def shownMembers : List (Text × Json) → List Text
  | [] => []
  | (key, value) :: members =>
    (key.shown ++ ": " ++ value.shown) :: shownMembers members

end

/-- A value as a text: a text is itself, any other value is shown. -/
def displayed : Json → Text
  | .text value => value
  | value => value.shown

end Json

end Playback
