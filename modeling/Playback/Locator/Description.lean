import Playback.Assoc
import Playback.Json.Shown
import Playback.Locator.Basic
import Playback.Number.Integer
import Playback.Schema.Member

/-!
# Structured descriptions of a target

A recorder may describe the target of an action as JSON. Three notations are read, the first that a
description has the shape of:

* a role: an object with a `role`, which may have a `name` and be `exact`;
* a chain: an object with a `kind` and a `body`, which may have `options` and a `next` object that
  narrows the target down further;
* a single key such as `text`, `testId` or `css`, or a plain text, which is a selector.

`Description` is one link of a chain as it is described, `Description.chain?` reads a chain, and
`Locator.described` is the locator of a description in any of the notations. A description with a
part that has no meaning gives no locator at all; one with a number that cannot be read is an error.
-/

namespace Playback

/-- A state or another property that the description of a role names. -/
structure Attribute where
  name : Text
  value : Json

/-- The property that the members of an object give. -/
def Attribute.read (members : Json.Members) : Checked Attribute :=
  Attribute.mk
    <$> members.required { name := "name" } Json.readText
    <*> members.optional { name := "value" } .null .valid

/-- What the description of a link has besides its kind and its body. -/
structure DescriptionOptions where
  name : Option Text
  exact : Option Bool
  attributes : List Attribute

/-- The options where a description has none. -/
def DescriptionOptions.absent : DescriptionOptions := ⟨none, none, []⟩

/-- The options that the members of an object give. -/
def DescriptionOptions.read (members : Json.Members) : Checked DescriptionOptions :=
  members.withUnicodeNames <|
    DescriptionOptions.mk
      <$> members.nullable { name := "name" } Json.readText
      <*> members.nullable { name := "exact" } Json.readFlag
      <*> members.optional { name := "attrs" } []
            (Json.readList (Json.readPart "LocatorAttr" Attribute.read))

/-- One link of a chain as it is described. -/
structure Description where
  kind : Text
  body : Text
  options : DescriptionOptions

namespace Description

/-- The link that the members of an object describe. -/
def read (members : Json.Members) : Checked Description :=
  members.withUnicodeNames <|
    Description.mk
      <$> members.required { name := "kind" } Json.readText
      <*> members.required { name := "body" } Json.readText
      <*> members.optional { name := "options" } .absent
            (Json.readPart "LocatorOptions" DescriptionOptions.read)

mutual

/-- The links that a description and the descriptions nested in it give, outermost first. -/
def chain? : Json → Option (List Description)
  | .object members => do
    let description ← (Description.read members).value?
    return description :: (← nextOf? members)
  | _ => none

/-- The links of the description that is nested in an object with these members. -/
def nextOf? : List (Text × Json) → Option (List Description)
  | [] => some []
  | (key, value) :: members =>
    if key = ("next" : Text) then if value.isNull then some [] else chain? value
    else nextOf? members

end

end Description

/-- The state of a name that a description uses for it. -/
def AriaState.ofName? (name : Text) : Option AriaState :=
  List.lookup name
    [("checked", .checked), ("disabled", .disabled), ("expanded", .expanded),
      ("includeHidden", .includeHidden), ("include-hidden", .includeHidden), ("level", .level),
      ("pressed", .pressed), ("selected", .selected)]

/-- Is the text one or more digits? -/
def Text.isDigits (t : Text) : Bool := !t.isEmpty && t.all CodePoint.isDigit

/-- The value of a state. A level written in digits is a number. -/
def StateValue.read (state : AriaState) : Json → Except Integer.Fault StateValue
  | .bool value => .ok (.bool value)
  | .number value => .ok (.number value)
  | .text value =>
    if state = .level ∧ value.isDigits then (.number ∘ .int) <$> Integer.read value
    else .ok (.text value)
  | value => .ok (.text value.displayed)

namespace DescriptionOptions

/-- The attributes with a value. -/
def given (options : DescriptionOptions) : List Attribute :=
  options.attributes.filter fun a => !a.value.isNull

/-- The name of a role. Where the options have neither a name nor a flag, the first attribute called
`name` gives it. -/
def roleName (options : DescriptionOptions) : Option Text :=
  if options.name.isNone && options.exact.isNone then
    (options.given.find? (·.name = ("name" : Text))).map (·.value.displayed)
  else options.name

/-- The states of a role, in the order in which they come first; the last value of each counts. -/
def states (options : DescriptionOptions) :
    Except Integer.Fault (List (AriaState × StateValue)) := do
  let named := options.given.filterMap fun a =>
    (AriaState.ofName? a.name).map (·, a.value)
  return Assoc.ofPairs (← named.mapM fun (state, value) =>
    (StateValue.read state value).map (state, ·))

/-- Is an exact match asked for? -/
def isExact (options : DescriptionOptions) : Bool := options.exact == some true

end DescriptionOptions

/-- The text that elements are found by in a chain. -/
def TextTarget.ofKind? (kind : Text) : Option TextTarget :=
  List.lookup kind
    [("text", .text), ("label", .label), ("placeholder", .placeholder), ("alt", .altText),
      ("title", .title)]

/-- The link that is described, if its kind is known. -/
def Description.link? (d : Description) : Except Integer.Fault (Option Link) :=
  if d.kind = ("role" : Text) then do
    return some (.role d.body d.options.roleName d.options.isExact (← d.options.states))
  else if d.kind = ("default" : Text) ∨ d.kind = ("css" : Text) then
    return some (.selector d.body)
  else if let some target := TextTarget.ofKind? d.kind then
    return some (.byText target d.body d.options.isExact)
  else if d.kind = ("testid" : Text) ∨ d.kind = ("test-id" : Text) then
    return some (.testId d.body)
  else if d.kind = ("nth" : Text) ∧ Text.isDigits (d.body.dropWhile (· == .char '-')) then do
    return some (.nth (← Integer.read d.body))
  else if d.kind = ("first" : Text) then return some .first
  else if d.kind = ("last" : Text) then return some .last
  else return none

namespace Locator

/-- The locator of a chain, if every link of it is known. -/
def ofChain : List Description → Except Integer.Fault (Option Locator)
  | [] => return some []
  | d :: chain => do
    match ← d.link? with
    | some link => return (← ofChain chain).map (link :: ·)
    | none => return none

/-- The locator of a role. -/
def ofRole? (members : Json.Members) : Option Locator :=
  let read : Checked Link :=
    (fun role name exact => Link.role role name (exact == some true) [])
      <$> members.required { name := "role" } Json.readText
      <*> members.nullable { name := "name" } Json.readText
      <*> members.nullable { name := "exact" } Json.readFlag
  read.value?.map ([·])

/-- The keys that may stand alone, in the order in which they are looked for, and their links. -/
def singleKeys : List (Text × (Text → Link)) :=
  [("text", (.byText .text · false)), ("label", (.byText .label · false)),
    ("placeholder", (.byText .placeholder · false)), ("testId", .testId),
    ("altText", (.byText .altText · false)), ("title", (.byText .title · false)),
    ("css", .selector)]

/-- The locator of the first single key that has a text. -/
def ofSingleKey? (members : Json.Members) : Option Locator :=
  singleKeys.findSome? fun (key, link) =>
    match members.get? key with
    | some (.text value) => some [link value]
    | _ => none

/-- Is there a role, which is a text that is not empty? -/
def hasRole (members : Json.Members) : Bool :=
  match members.get? "role" with
  | some (.text role) => !role.isEmpty
  | _ => false

/-- Are there a kind and a body, whatever they are? -/
def hasKindAndBody (members : Json.Members) : Bool :=
  (members.get? "kind").isSome && (members.get? "body").isSome

/-- The locator of a description, if it has one. -/
def described (description : Json) : Except Integer.Fault (Option Locator) :=
  match description with
  | .object members =>
    if hasRole members then return ofRole? members
    else if hasKindAndBody members then
      match Description.chain? description with
      | some chain => ofChain chain
      | none => return none
    else return ofSingleKey? members
  | .text selector => return if selector.isEmpty then none else some [.selector selector]
  | _ => return none

end Locator

end Playback
