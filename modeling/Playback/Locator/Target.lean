import Playback.Locator.Description
import Playback.Locator.Selector
import Playback.Log.Notice

/-!
# The target of an action

An action names its target by a structured description, by a selector, or by both. A description
that has a locator decides. One that has none is passed over with a warning: the selector decides,
and if there is none the body of the description is taken as a selector. Where nothing is left the
target is the empty selector, with a warning too.
-/

namespace Playback

namespace Locator

/-- The selector that a description without a locator may hold as its body. -/
def bodySelector? : Json → Option Text
  | .object members =>
    match Json.Members.get? members "body" with
    | some (.text body) => some body
    | _ => none
  | _ => none

/-- The locator of an optional selector; an empty one is none. -/
def ofSelector? : Option Text → Option Locator
  | some selector => if selector.isEmpty then none else some [Selector.link selector]
  | none => none

/-- The locator of a target with no description that decides, and what is logged about it. -/
def withoutDescription (selector : Option Text) : Locator × Log :=
  match ofSelector? selector with
  | some locator => (locator, [])
  | none => ([.selector []], [.noTarget])

/-- The locator of a target, and what is logged about it. -/
def ofTarget (selector : Option Text) (description : Json) :
    Except Integer.Fault (Locator × Log) := do
  if description.isNull then return withoutDescription selector
  match ← described description with
  | some locator => return (locator, [])
  | none =>
    let warning : Log := [.unknownDescription description]
    match ofSelector? selector, bodySelector? description with
    | none, some body => return ([.selector body], warning)
    | _, _ =>
      let (locator, log) := withoutDescription selector
      return (locator, warning ++ log)

end Locator

end Playback
