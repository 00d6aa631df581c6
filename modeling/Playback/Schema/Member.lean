import Playback.Schema.Scalar

/-!
# Members of a record

* `Field`: the name of a member and, for some, a second spelling that counts where the first is
  missing.
* `Json.Members.entry?`: the member that a field is read from.
* `Json.Members.optional`, `Json.Members.required`: a field read, its problems under the spelling
  that the record uses.
* `Json.Members.extras`: the members that no field is read from, in order.
* `Json.Members.withUnicodeNames`: what is read of members, if all their names are Unicode text.
* `Json.readPart`: a named part of a record, which is an object.
-/

namespace Playback

/-- The name of a member, and a second spelling that counts where the first is missing. -/
structure Field where
  name : Text
  second? : Option Text := none

namespace Json

namespace Members

/-- The member that a field is read from. -/
def entry? (members : Members) (field : Field) : Option (Text × Json) :=
  match members.get? field.name with
  | some value => some (field.name, value)
  | none => field.second?.bind fun name => (members.get? name).map (name, ·)

variable {α : Type}

/-- A field that has the value `absent` where it is missing. -/
def optional (members : Members) (field : Field) (absent : α) (read : Json → Checked α) :
    Checked α :=
  match members.entry? field with
  | some (name, value) => (read value).under (.key name)
  | none => .valid absent

/-- A field that must be there. -/
def required (members : Members) (field : Field) (read : Json → Checked α) : Checked α :=
  match members.entry? field with
  | some (name, value) => (read value).under (.key name)
  | none => .invalid [⟨[.key field.name], .missing⟩]

/-- A field that may be missing or `null`. -/
def nullable (members : Members) (field : Field) (read : Json → Checked α) : Checked (Option α) :=
  members.optional field none (readNullable read)

/-- The members that none of the fields is read from. -/
def extras (members : Members) (fields : List Field) : Members :=
  let names := fields.filterMap fun field => (members.entry? field).map Prod.fst
  members.filter fun member => !names.contains member.1

/-- What is read of the members, if all their names are Unicode text. If one is not, that is the
only problem of the object. -/
def withUnicodeNames (members : Members) (checked : Checked α) : Checked α :=
  if members.all (·.1.isUnicode) then checked else .mismatch .unicode

/-- The members that are not `null`. -/
def withoutNull (members : Members) : Members :=
  members.filter fun member => !member.2.isNull

end Members

/-- A named part of a record, which is an object. -/
def readPart {α : Type} (name : Text) (read : Members → Checked α) : Json → Checked α
  | .object members => read members
  | _ => .mismatch (.part name)

/-- The JSON of a value that may be missing. -/
def ofOption {α : Type} (toJson : α → Json) : Option α → Json
  | some a => toJson a
  | none => .null

end Json

end Playback
