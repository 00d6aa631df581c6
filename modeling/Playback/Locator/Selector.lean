import Playback.Locator.Basic

/-!
# Selectors of the recorder

A recorder writes the targets that it knows more about as internal selectors: a role and a name, a
text, a test id. Those become the calls that they stand for; any other selector is used as it is.

* `Selector.quoted?`: a quoted argument: items between double quotes, each a character that is
  neither a quote nor a backslash, or a backslash and any character.
* `Selector.argument`: what a quoted argument stands for.
* `Selector.link`: the link of a selector.
-/

namespace Playback

namespace Selector

/-- The items of a quoted argument behind its opening quote, and what follows its closing quote. -/
def quotedBody? : Text → Option (Text × Text)
  | [] => none
  | .char '"' :: rest => some ([], rest)
  | [.char '\\'] => none
  | .char '\\' :: p :: rest =>
    (quotedBody? rest).map fun (body, rest) => (.char '\\' :: p :: body, rest)
  | p :: rest => (quotedBody? rest).map fun (body, rest) => (p :: body, rest)

/-- The items of a quoted argument that a text begins with, and what follows it. -/
def quoted? : Text → Option (Text × Text)
  | .char '"' :: rest => quotedBody? rest
  | _ => none

/-- What a quoted argument stands for: its text as a literal, or its items as they are if they are
no literal. -/
def argument (body : Text) : Text :=
  (Quoted.decode? (.char '"' :: (body ++ [.char '"']))).getD body

/-- Does the flag in front of `closing` ask for an exact match? Nothing if there is anything else
than a flag. -/
def exactFlag? (closing rest : Text) : Option Bool :=
  if rest = closing ∨ rest = .char 'i' :: closing then some false
  else if rest = .char 's' :: closing then some true
  else none

/-- A quoted argument and its flag, with `closing` at the end of the text. -/
def flagged? (closing t : Text) : Option (Text × Bool) := do
  let (body, rest) ← quoted? t
  return (argument body, ← exactFlag? closing rest)

/-- The letters and hyphens of a role. -/
def isRoleCharacter (p : CodePoint) : Bool := p.isAsciiLetter || p == .char '-'

/-- A role, alone or with a name. -/
def role? (t : Text) : Option Link := do
  let role : Text := t.takeWhile isRoleCharacter
  let rest : Text := t.dropWhile isRoleCharacter
  if role.isEmpty then none
  if rest.isEmpty then return .role role none false []
  let (name, exact) ← flagged? "]" (← rest.after? "[name=")
  return .role role (some name) exact []

/-- A text and how it has to match. -/
def byText? (target : TextTarget) (closing : Text) (t : Text) : Option Link :=
  (flagged? closing t).map fun (content, exact) => .byText target content exact

/-- A test id, inside the attribute that holds it or alone. Its flag has no meaning. -/
def testId? (t : Text) : Option Link :=
  let found : Option (Text × Bool) := match t.after? "[data-testid=" with
    | some rest => flagged? "]" rest
    | none => flagged? [] t
  found.map fun (id, _) => .testId id

/-- How internal selectors begin, and what each beginning is followed by. -/
def forms : List (Text × (Text → Option Link)) :=
  [("internal:role=", role?),
    ("internal:text=", byText? .text []),
    ("internal:label=", byText? .label []),
    ("internal:testid=", testId?),
    ("internal:attr=[placeholder=", byText? .placeholder "]"),
    ("internal:attr=[alt=", byText? .altText "]"),
    ("internal:attr=[title=", byText? .title "]")]

/-- The link of a selector. -/
def link (selector : Text) : Link :=
  (forms.findSome? fun (lead, read) => (selector.after? lead).bind read).getD (.selector selector)

end Selector

end Playback
