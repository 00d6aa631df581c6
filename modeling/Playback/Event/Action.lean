import Playback.Event.Arguments
import Playback.Event.Page
import Playback.Locator.Target
import Playback.Program.Snippet
import Playback.Run
import Playback.Text.Blank

/-!
# Actions

An action is what an event does: it opens, navigates or closes a page, it interacts with a target on
a page, or it asserts something about a target.

* `PageAction`, `Interaction`, `Assertion`, and `Action` any of them; `Action.ofName?` finds the
  action of an event's name.
* `PageAction.statements`, `Interaction.expression`, `Assertion.expression`: the code of an action.
* `Event.actionSnippet`: the code of an event's action, without its signals.
-/

namespace Playback

/-- What happens to a page as a whole. -/
inductive PageAction where
  | openPage
  | closePage
  | navigate
  deriving DecidableEq

/-- What happens to a target on a page. -/
inductive Interaction where
  | click
  | fill
  | press
  | hover
  | check
  | uncheck
  | select
  | setInputFiles
  deriving DecidableEq

/-- What is asserted about a target on a page. -/
inductive Assertion where
  | text
  | visible
  | checked
  | value
  | snapshot
  deriving DecidableEq

/-- What an event does. -/
inductive Action where
  | page (action : PageAction)
  | interaction (action : Interaction)
  | assertion (action : Assertion)
  deriving DecidableEq

/-- The actions by the names that a recording has for them. -/
def Action.names : List (Text × Action) :=
  [("openPage", .page .openPage), ("closePage", .page .closePage), ("navigate", .page .navigate),
    ("click", .interaction .click), ("fill", .interaction .fill), ("press", .interaction .press),
    ("hover", .interaction .hover), ("check", .interaction .check),
    ("uncheck", .interaction .uncheck), ("select", .interaction .select),
    ("setInputFiles", .interaction .setInputFiles), ("assertText", .assertion .text),
    ("assertVisible", .assertion .visible), ("assertChecked", .assertion .checked),
    ("assertValue", .assertion .value), ("assertSnapshot", .assertion .snapshot)]

/-- The action of a name. -/
def Action.ofName? (name : Text) : Option Action := List.lookup name names

/-- The addresses of pages that are still empty. -/
def blankPages : List Text := ["about:blank", "chrome://newtab/"]

/-- The statements of what happens to a page. A page that is opened at an address goes there. -/
def PageAction.statements (action : PageAction) (event : Event) : List Statement :=
  let page := Expression.name event.page
  match action with
  | .openPage =>
    let comment := Statement.comment ("New page: " ++ event.page)
    match event.url with
    | some url =>
      if url.isEmpty || blankPages.contains url then [comment]
      else [comment, .expression (page.invoke "goto" [.text url])]
    | none => [comment]
  | .closePage => [.expression (page.invoke "close" [])]
  | .navigate => [.expression (page.invoke "goto" [.textOrEmpty event.url])]

/-- The argument of a position. -/
def Event.positionKeyword (event : Event) : List (Text × Expression) :=
  event.position.toList.map fun position => ("position", position.expression)

/-- How often an event clicks. No number and zero mean once. -/
def Event.clicks (event : Event) : Int :=
  match event.clickCount with
  | none | some 0 => 1
  | some count => count

/-- The arguments of a single click: a button other than the left one, modifier keys, a position. -/
def Event.clickKeywords (event : Event) : List (Text × Expression) :=
  let button : List (Text × Expression) := match event.button with
    | some button =>
      if button.isEmpty || button == "left" then [] else [("button", .text button)]
    | none => []
  let keys := event.heldKeys
  let modifiers : List (Text × Expression) :=
    if keys.isEmpty then [] else [("modifiers", .list (keys.map .text))]
  button ++ modifiers ++ event.positionKeyword

/-- The expression of what happens to a target. -/
def Interaction.expression (action : Interaction) (event : Event) (target : Expression) :
    Expression :=
  match action with
  | .click =>
    if event.clicks = 2 then target.invoke "dblclick" []
    else if event.clicks > 2 then
      target.invokeWith "click" [("click_count", .number (.int event.clicks))]
    else target.invokeWith "click" event.clickKeywords
  | .fill => target.invoke "fill" [.textOrEmpty event.text]
  | .press =>
    target.invoke "press" [.text (Text.joined "+" (event.heldKeys ++ [event.key.getD []]))]
  | .hover => target.invokeWith "hover" event.positionKeyword
  | .check => target.invoke "check" []
  | .uncheck => target.invoke "uncheck" []
  | .select =>
    target.invoke "select_option" [(event.options.map Values.expression).getD (.text [])]
  | .setInputFiles =>
    target.invoke "set_input_files" [(event.files.map Values.expression).getD (.list [])]

/-- The expression of what is asserted about a target. -/
def Assertion.expression (action : Assertion) (event : Event) (target : Expression) : Expression :=
  let expected := Expression.call (.name assertionImport.name) [target] []
  match action with
  | .text =>
    expected.invoke (if event.substring = some true then "to_contain_text" else "to_have_text")
      [.textOrEmpty event.text]
  | .visible => expected.invoke "to_be_visible" []
  | .checked =>
    expected.invoke (if event.checked = some false then "not_to_be_checked" else "to_be_checked") []
  | .value =>
    match event.value with
    | some v =>
      if Text.isBlank v then expected.invoke "to_be_empty" []
      else expected.invoke "to_have_value" [.text v]
    | none => expected.invoke "to_be_empty" []
  | .snapshot => expected.invoke "to_match_aria_snapshot" [.textOrEmpty event.snapshot]

namespace Event

/-- The target of an event as an expression. -/
def target (event : Event) : Run Expression :=
  match Locator.ofTarget event.selector event.locator with
  | .ok (locator, log) => do
    Run.notices log
    return locator.expression event.root
  | .error fault => .fail (.integer fault)

/-- The code of an event's action, without its signals. -/
def actionSnippet (event : Event) : Run Snippet :=
  match Action.ofName? event.name with
  | none => .fail (.unknownAction event.name event.record)
  | some (.page action) => return .ofStatements (action.statements event) []
  | some (.interaction action) => do
    return .ofStatements [.expression (action.expression event (← event.target))] []
  | some (.assertion action) => do
    return .ofStatements [.expression (action.expression event (← event.target))] [assertionImport]

end Event

end Playback
