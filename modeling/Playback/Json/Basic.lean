import Playback.Number.Basic

/-!
# JSON values

* `Json`: a value. The members of an object keep their order; no key occurs twice in an object that
  was read from a text.
* `Json.Members`: the members of an object, and `Json.Members.get?` the value of a key.
* `Json.kind`: the name of a value's kind.
-/

namespace Playback

/-- A JSON value. -/
inductive Json where
  | null
  | bool (value : Bool)
  | number (value : Number)
  | text (value : Text)
  | list (items : List Json)
  | object (members : List (Text × Json))

namespace Json

instance : Inhabited Json := ⟨.null⟩

/-- The members of an object, in order. -/
abbrev Members := List (Text × Json)

/-- The value of a key. -/
def Members.get? (members : Members) (key : Text) : Option Json := List.lookup key members

/-- Is the value `null`? -/
def isNull : Json → Bool
  | .null => true
  | _ => false

/-- The name of a value's kind, as messages give it. -/
def kind : Json → Text
  | .null => "NoneType"
  | .bool _ => "bool"
  | .number (.int _) => "int"
  | .number (.float _) => "float"
  | .text _ => "str"
  | .list _ => "list"
  | .object _ => "dict"

end Json

end Playback
