import Mathlib.Data.List.Nodup
import Playback.Locator.Basic
import Playback.Proofs.Code.Delimited
import Playback.Proofs.Text.Basic

/-!
# The steps from a page to a target

The code of a target is the name of the page and behind it one step after the other: two for each
frame on the way, and one for each link of the locator.

* `Step`, and `Step.written` a step as it stands in the code.
* `Locator.print_expression`: the code of a target.
-/

namespace Playback

/-- A step from what was found before: into the frame that it is, or along a link. -/
inductive Step where
  | intoFrame
  | link (link : Link)

namespace Link

/-- The argument for a text that has to match as a whole. -/
def exactArgument (exact : Bool) : List (Text × Text) :=
  optionalArgument "exact" (if exact then some ("True" : Text) else none)

/-- The states of a role as arguments: a keyword and the text of the value for each. -/
def stateArguments (states : List (AriaState × StateValue)) : List (Text × Text) :=
  states.map fun (state, value) => (state.keyword, value.expression.print)

/-- The arguments of a role. -/
def roleArguments (name : Option Text) (exact : Bool) (states : List (AriaState × StateValue)) :
    List (Text × Text) :=
  optionalArgument "name" (name.map Quoted.encode) ++ (exactArgument exact ++ stateArguments states)

end Link

/-- What a step does, apart from what it looks for. -/
inductive StepKind where
  | intoFrame
  | role
  | byText (target : TextTarget)
  | testId
  | selector
  | nth
  | first
  | last
  deriving DecidableEq

namespace StepKind

/-- All kinds of steps. -/
def all : List StepKind :=
  [.intoFrame, .role, .byText .text, .byText .label, .byText .placeholder, .byText .altText,
    .byText .title, .testId, .selector, .nth, .first, .last]

theorem mem_all (kind : StepKind) : kind ∈ all := by
  cases kind with
  | byText target => cases target <;> decide
  | intoFrame | role | testId | selector | nth | first | last => decide

/-- The name that stands in a step. -/
def name : StepKind → Text
  | .intoFrame => "content_frame"
  | .role => "get_by_role"
  | .byText target => target.method
  | .testId => "get_by_test_id"
  | .selector => "locator"
  | .nth => "nth"
  | .first => "first"
  | .last => "last"

theorem isName_name (kind : StepKind) : kind.name.IsName := by
  have hall : ∀ kind ∈ all, kind.name.IsName := by decide +kernel
  exact hall kind kind.mem_all

/-- No two kinds of steps have the same name. -/
theorem name_inj {kind other : StepKind} (h : kind.name = other.name) : kind = other := by
  have hnames : (all.map name).Nodup := by decide +kernel
  exact List.inj_on_of_nodup_map hnames kind.mem_all other.mem_all h

end StepKind

namespace Step

/-- The kind of a step. -/
def kind : Step → StepKind
  | .intoFrame => .intoFrame
  | .link (.role ..) => .role
  | .link (.byText target ..) => .byText target
  | .link (.testId _) => .testId
  | .link (.selector _) => .selector
  | .link (.nth _) => .nth
  | .link .first => .first
  | .link .last => .last

/-- What a call has behind the name of the method: a text, and arguments with keywords. -/
def called (content : Text) (keywords : List (Text × Text)) : Text :=
  .char '(' :: (Quoted.encode content ++ (keywordsBehind keywords ++ [.char ')']))

/-- What stands behind the name of a step. -/
def arguments : Step → Text
  | .intoFrame | .link .first | .link .last => []
  | .link (.role role name exact states) =>
    called role (Link.roleArguments name exact states)
  | .link (.byText _ content exact) => called content (Link.exactArgument exact)
  | .link (.testId id) => called id []
  | .link (.selector selector) => called selector []
  | .link (.nth position) => .char '(' :: (Text.ofInt position ++ [.char ')'])

/-- A step as it stands in the code. -/
def written (step : Step) : Text := .char '.' :: (step.kind.name ++ step.arguments)

/-- The steps through the frames of a path and along a locator. -/
def along (path : List Text) (locator : Locator) : List Step :=
  (path.flatMap fun selector => [.link (.selector selector), .intoFrame]) ++ locator.map .link

end Step

/-! ## The code of targets -/

namespace Expression

theorem print_member (target : Expression) (identifier : Text) :
    (member target identifier).print = target.print ++ .char '.' :: identifier := by
  simp [Expression.print, Text.ofString]

theorem flatMap_printKeywords (keywords : List (Text × Expression)) :
    (printKeywords keywords).flatMap ((", " : Text) ++ ·) =
      keywordsBehind (keywords.map fun (keyword, value) => (keyword, value.print)) := by
  induction keywords with
  | nil => rfl
  | cons argument keywords ih =>
    obtain ⟨keyword, value⟩ := argument
    rw [printKeywords, List.flatMap_cons, ih]
    simp [keywordsBehind]

end Expression

open Expression in
theorem Link.print_call (target : Expression) (method content : Text)
    (keywords : List (Text × Expression)) :
    (call target method content keywords).print = target.print ++ .char '.' :: (method ++
      Step.called content (keywords.map fun (keyword, value) => (keyword, value.print))) := by
  have harguments : Text.joined ", " (printItems [.text content] ++ printKeywords keywords) =
      Quoted.encode content ++
        keywordsBehind (keywords.map fun (keyword, value) => (keyword, value.print)) := by
    rw [← flatMap_printKeywords]
    exact Text.joined_cons ", " (Quoted.encode content) (printKeywords keywords)
  rw [call, Expression.print, harguments, print_member]
  simp [Step.called, Text.ofString]

theorem Link.print_apply (target : Expression) (link : Link) :
    (link.apply target).print = target.print ++ (Step.link link).written := by
  have hexact (exact : Bool) :
      ((exactKeyword exact).map fun (keyword, value) => (keyword, value.print)) =
        exactArgument exact := by
    cases exact <;> rfl
  cases link with
  | role role name exact states =>
    have hstates : ((states.map fun (state, value) => (state.keyword, value.expression)).map
        fun (keyword, value) => (keyword, value.print)) = stateArguments states := by
      rw [List.map_map]
      rfl
    rw [apply, print_call, List.map_append, List.map_append, hexact, hstates, List.append_assoc]
    cases name <;> rfl
  | byText kind content exact =>
    rw [apply, print_call, hexact]
    rfl
  | testId id => exact print_call target _ _ _
  | selector selector => exact print_call target _ _ _
  | nth position =>
    simp [apply, Expression.print, Expression.printItems, Expression.printKeywords, Number.shown,
      Text.joined, Step.written, Step.kind, StepKind.name, Step.arguments, Text.ofString]
  | first => exact target.print_member _
  | last => exact target.print_member _

/-- A frame on the way is two steps. -/
theorem Expression.print_inFrames (root : Expression) (path : List Text) :
    (root.inFrames path).print = root.print ++ (Step.along path []).flatMap Step.written := by
  induction path generalizing root with
  | nil => simp [inFrames, Step.along]
  | cons selector path ih =>
    have hframe : (member (root.invoke "locator" [.text selector]) "content_frame").print =
        root.print ++ (Step.link (.selector selector)).written ++ Step.intoFrame.written := by
      rw [print_member]
      exact congrArg (· ++ _) (Link.print_apply root (.selector selector))
    show (Expression.inFrames _ path).print = _
    rw [ih, hframe]
    simp [Step.along]

/-- The code of a target: its root, the frames, and the links of its locator. -/
theorem Locator.print_expression (root : Expression) (path : List Text) (locator : Locator) :
    (locator.expression (root.inFrames path)).print =
      root.print ++ (Step.along path locator).flatMap Step.written := by
  have hlinks (target : Expression) : (locator.expression target).print =
      target.print ++ (locator.map Step.link).flatMap Step.written := by
    induction locator generalizing target with
    | nil => simp [Locator.expression]
    | cons link locator ih =>
      show (Locator.expression (link.apply target) locator).print = _
      rw [ih, Link.print_apply]
      simp
  rw [hlinks, Expression.print_inFrames]
  simp [Step.along]

/-! ## Where a step ends -/

namespace Step

theorem endsName_arguments (step : Step) {rest : Text} (h : rest.EndsName) :
    Text.EndsName (step.arguments ++ rest) := by
  have hbracket (t : Text) : Text.EndsName (.char '(' :: t) := Text.endsName_cons (by decide) t
  cases step with
  | intoFrame => exact h
  | link link =>
    cases link with
    | first | last => exact h
    | role | byText | testId | selector | nth => exact hbracket _

theorem endsName_written (steps : List Step) {rest : Text} (h : rest.EndsName) :
    Text.EndsName (steps.flatMap written ++ rest) := by
  cases steps with
  | nil => exact h
  | cons step steps => exact Text.endsName_cons (p := .char '.') (by decide) _

end Step

end Playback
