import Playback.Json.Basic
import Playback.Text.Quoted

/-!
# Writing JSON

* `Json.encode`: the text of a value on one line, with `, ` between items and `: ` behind keys. All
  that a string may hold raw is raw. Floating-point numbers that are not finite have names.
* `Json.sorted`: the value with the members of every object in the order of their keys.
* `Json.excerpt`: the beginning of the sorted value's text.
-/

namespace Playback

/-- The JSON notation of a floating-point number. -/
def Binary64.encode : Binary64 → Text
  | .nan => "NaN"
  | .infinite negative => if negative then "-Infinity" else "Infinity"
  | value => value.shown

/-- The JSON notation of a number. -/
def Number.encode : Number → Text
  | .int value => Text.ofInt value
  | .float value => value.encode

namespace Json

mutual

/-- The text of a value. -/
def encode : Json → Text
  | .null => "null"
  | .bool value => if value then "true" else "false"
  | .number value => value.encode
  | .text value => Quoted.encode value
  | .list items => "[" ++ Text.joined ", " (encodeItems items) ++ "]"
  | .object members => "\x7b" ++ Text.joined ", " (encodeMembers members) ++ "\x7d"

/-- The texts of the items of a list. -/
def encodeItems : List Json → List Text
  | [] => []
  | item :: items => item.encode :: encodeItems items

/-- The texts of the members of an object. -/
def encodeMembers : List (Text × Json) → List Text
  | [] => []
  | (key, value) :: members =>
    (Quoted.encode key ++ ": " ++ value.encode) :: encodeMembers members

end

/-- A member put in front of the first one with a greater key. -/
def insertByKey (member : Text × Json) : Members → Members
  | [] => [member]
  | other :: rest =>
    if Text.le member.1 other.1 then member :: other :: rest
    else other :: insertByKey member rest

mutual

/-- The value with the members of every object sorted by key. -/
def sorted : Json → Json
  | .list items => .list (sortedItems items)
  | .object members => .object (sortedMembers members)
  | value => value

/-- The items of a list, each sorted. -/
def sortedItems : List Json → List Json
  | [] => []
  | item :: items => item.sorted :: sortedItems items

/-- The members of an object, each sorted, in the order of their keys. -/
def sortedMembers : List (Text × Json) → List (Text × Json)
  | [] => []
  | (key, value) :: members => insertByKey (key, value.sorted) (sortedMembers members)

end

/-- The text of the sorted value, if it has at most `limit` code points; else as many of them as the
limit says, and an ellipsis. A negative limit counts from the end. -/
def excerpt (limit : Int) (value : Json) : Text :=
  let text := value.sorted.encode
  if text.length ≤ limit then text
  else
    let kept := if 0 ≤ limit then limit.toNat else (text.length + limit).toNat
    text.take kept ++ "…"

end Json

end Playback
