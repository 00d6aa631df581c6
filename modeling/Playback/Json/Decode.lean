import Playback.Assoc
import Playback.Json.Token

/-!
# Reading JSON

A text is read token by token. The reader keeps the containers that are open around the current
place, innermost first, and what may stand at that place.

* `Json.Fault`: why a text is not JSON, and `Json.Fault.message` the reason in words.
* `Json.Place`: what may stand next; `Json.Place.step` reads one token there.
* `Json.decode`: the value of a whole text. The first token that cannot stand in its place decides
  the fault. Of two members with one key the later value counts, in the place of the earlier.
-/

namespace Playback

namespace Json

/-- Why a text is not JSON. -/
inductive Fault where
  | expectedValue
  | expectedKey
  | expectedColon
  | expectedComma
  | extraData
  | byteOrderMark
  | text (fault : Quoted.Fault)
  | hugeNumber (digits : Nat)
  deriving DecidableEq

/-- The reason in words. -/
def Fault.message : Fault → Text
  | .expectedValue => "Expecting value"
  | .expectedKey => "Expecting property name enclosed in double quotes"
  | .expectedColon => "Expecting ':' delimiter"
  | .expectedComma => "Expecting ',' delimiter"
  | .extraData => "Extra data"
  | .byteOrderMark => "Unexpected UTF-8 BOM (decode using utf-8-sig)"
  | .text .unterminated => "Unterminated string starting at"
  | .text .controlCharacter => "Invalid control character at"
  | .text .escape => "Invalid \\escape"
  | .text .unicodeEscape => "Invalid \\uXXXX escape"
  | .hugeNumber digits => (Integer.Fault.tooManyDigits digits).message

/-- A container that is open: a list with the items read so far, last first, or an object with the
members read so far and the key whose value is being read. -/
inductive Frame where
  | list (items : List Json)
  | member (members : Members) (key : Text)

/-- What may stand next, with the containers that are open around it. -/
inductive Place where
  /-- A value. -/
  | value (outer : List Frame)
  /-- The first item of a list, or its end. -/
  | firstItem (outer : List Frame)
  /-- The first key of an object, or its end. -/
  | firstKey (outer : List Frame)
  /-- A key behind a comma. -/
  | key (members : Members) (outer : List Frame)
  /-- The colon behind a key. -/
  | colon (members : Members) (key : Text) (outer : List Frame)
  /-- A comma or the end of a list; the items are last first. -/
  | afterItem (items : List Json) (outer : List Frame)
  /-- A comma or the end of an object. -/
  | afterMember (members : Members) (outer : List Frame)
  /-- The end of the text behind the whole value. -/
  | finished (value : Json)

/-- The place behind a value, which goes into the innermost open container. -/
def Place.behind (v : Json) : List Frame → Place
  | [] => .finished v
  | .list items :: outer => .afterItem (v :: items) outer
  | .member members k :: outer => .afterMember (Assoc.put members k v) outer

/-- Reads the first token of a value. -/
def Place.startValue (outer : List Frame) : Token → Except Fault Place
  | .openList => .ok (.firstItem outer)
  | .openObject => .ok (.firstKey outer)
  | .null => .ok (.behind .null outer)
  | .bool b => .ok (.behind (.bool b) outer)
  | .number n => .ok (.behind (.number n) outer)
  | .text t => .ok (.behind (.text t) outer)
  | .badText fault => .error (.text fault)
  | .hugeNumber digits => .error (.hugeNumber digits)
  | _ => .error .expectedValue

/-- Reads a key. -/
def Place.startMember (members : Members) (outer : List Frame) : Token → Except Fault Place
  | .text k => .ok (.colon members k outer)
  | .badText fault => .error (.text fault)
  | _ => .error .expectedKey

/-- Reads one token. -/
def Place.step : Place → Token → Except Fault Place
  | .value outer, token => startValue outer token
  | .firstItem outer, .closeList => .ok (.behind (.list []) outer)
  | .firstItem outer, token => startValue (.list [] :: outer) token
  | .firstKey outer, .closeObject => .ok (.behind (.object []) outer)
  | .firstKey outer, token => startMember [] outer token
  | .key members outer, token => startMember members outer token
  | .colon members k outer, .colon => .ok (.value (.member members k :: outer))
  | .colon .., _ => .error .expectedColon
  | .afterItem items outer, .comma => .ok (.value (.list items :: outer))
  | .afterItem items outer, .closeList => .ok (.behind (.list items.reverse) outer)
  | .afterItem .., _ => .error .expectedComma
  | .afterMember members outer, .comma => .ok (.key members outer)
  | .afterMember members outer, .closeObject => .ok (.behind (.object members) outer)
  | .afterMember .., _ => .error .expectedComma
  | .finished _, _ => .error .extraData

/-- The value, if the text may end at the place. -/
def Place.finish : Place → Except Fault Json
  | .finished v => .ok v
  | .value _ | .firstItem _ => .error .expectedValue
  | .firstKey _ | .key .. => .error .expectedKey
  | .colon .. => .error .expectedColon
  | .afterItem .. | .afterMember .. => .error .expectedComma

/-- Reads the tokens from a place to the end of the text. -/
def Place.run (place : Place) (tokens : List Token) : Except Fault Json := do
  (← tokens.foldlM step place).finish

/-- The value of a JSON text. -/
def decode : Text → Except Fault Json
  | .char '\uFEFF' :: _ => .error .byteOrderMark
  | t => (Place.value []).run (tokens t)

end Json

end Playback
