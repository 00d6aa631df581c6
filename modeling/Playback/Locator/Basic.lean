import Playback.Program.Expression

/-!
# Locators

A locator finds the target of an action on a page: a chain of links, each of which narrows down what
the links in front of it find.

* `TextTarget`: the texts of a page by which an element can be found.
* `AriaState`: the states by which elements of one role are told apart.
* `Link`: one link of a chain, and `Locator` a chain.
* `Link.apply`, `Locator.expression`: the links as calls on an expression.
-/

namespace Playback

/-- A text by which an element can be found. -/
inductive TextTarget where
  | text
  | label
  | placeholder
  | altText
  | title
  deriving DecidableEq

/-- The method that finds elements by a text. -/
def TextTarget.method : TextTarget → Text
  | .text => "get_by_text"
  | .label => "get_by_label"
  | .placeholder => "get_by_placeholder"
  | .altText => "get_by_alt_text"
  | .title => "get_by_title"

/-- A state of an element that its role may have. -/
inductive AriaState where
  | checked
  | disabled
  | expanded
  | includeHidden
  | level
  | pressed
  | selected
  deriving DecidableEq

/-- The keyword of a state. -/
def AriaState.keyword : AriaState → Text
  | .checked => "checked"
  | .disabled => "disabled"
  | .expanded => "expanded"
  | .includeHidden => "include_hidden"
  | .level => "level"
  | .pressed => "pressed"
  | .selected => "selected"

/-- The value of a state. -/
inductive StateValue where
  | bool (value : Bool)
  | number (value : Number)
  | text (value : Text)
  deriving DecidableEq

/-- The literal of a state's value. -/
def StateValue.expression : StateValue → Expression
  | .bool value => .bool value
  | .number value => .number value
  | .text value => .text value

/-- One link of a locator. -/
inductive Link where
  /-- The elements of a role, with a name and states. -/
  | role (role : Text) (name : Option Text) (exact : Bool) (states : List (AriaState × StateValue))
  /-- The elements found by a text. -/
  | byText (target : TextTarget) (content : Text) (exact : Bool)
  /-- The elements with a test id. -/
  | testId (id : Text)
  /-- The elements that a selector finds. -/
  | selector (selector : Text)
  /-- The element at a position, counted from the end if it is negative. -/
  | nth (position : Int)
  | first
  | last
  deriving DecidableEq

namespace Link

/-- The keyword argument for a text that has to match as a whole. -/
def exactKeyword (exact : Bool) : List (Text × Expression) :=
  if exact then [("exact", .bool true)] else []

/-- A call of a method that finds elements. -/
def call (target : Expression) (method : Text) (content : Text)
    (keywords : List (Text × Expression)) : Expression :=
  .call (.member target method) [.text content] keywords

/-- The link applied to what is found so far. -/
def apply (target : Expression) : Link → Expression
  | .role r name exact states =>
    call target "get_by_role" r
      ((name.toList.map fun n => (("name" : Text), Expression.text n)) ++ exactKeyword exact ++
        states.map fun (state, value) => (state.keyword, value.expression))
  | .byText kind content exact => call target kind.method content (exactKeyword exact)
  | .testId id => call target "get_by_test_id" id []
  | .selector s => call target "locator" s []
  | .nth position => .call (.member target "nth") [.number (.int position)] []
  | .first => .member target "first"
  | .last => .member target "last"

end Link

/-- A locator: links, the outermost first. -/
abbrev Locator := List Link

/-- The locator as calls on the page or frame that it starts from. -/
def Locator.expression (root : Expression) (locator : Locator) : Expression :=
  locator.foldl Link.apply root

end Playback
