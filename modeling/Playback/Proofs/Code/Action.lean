import Playback.Event.Action
import Playback.Proofs.Assoc
import Playback.Proofs.Code.Delimited
import Playback.Proofs.Code.Expression

/-!
# Actions as code

* `Event.isPlain_page`, `Expression.literals_inFrames`: the name of a page is plain whatever its
  alias is, and the literals of a frame are the path to it.
* `Locator.literals_prefix_expression`: a locator leaves the literals of the page or frame that it
  starts from in front of its own.
* `Text.IsCallWith`: a line that is a call, with the literals of its arguments.
* `Expression.IsCallOn`: a call of a method of a receiver, given with the literals of its arguments.
* `Event.recorded?`: the recorded texts that an action has to hand on as its arguments, by the name
  of the action, and `Action.recorded?` the same by the action.
* `Interaction.isCallOn_expression`, `Assertion.isCallOn_expression`: an action is a call on its
  target that hands on these.
-/

namespace Playback

section Names

theorem isPlain_pageName (pageAlias : Text) : Text.IsPlain (pageName pageAlias) :=
  (isName_pageName pageAlias).isPlain

theorem Event.isPlain_page (event : Event) : Text.IsPlain event.page := isPlain_pageName _

theorem TextTarget.isPlain_method (target : TextTarget) : Text.IsPlain target.method := by
  cases target <;> decide

theorem AriaState.isPlain_keyword (state : AriaState) : Text.IsPlain state.keyword := by
  cases state <;> decide

end Names

namespace Expression

variable {root : Expression}

theorem HasPlainNames.inFrames (h : root.HasPlainNames) (path : List Text) :
    (root.inFrames path).HasPlainNames := by
  unfold Expression.inFrames
  induction path generalizing root with
  | nil => exact h
  | cons selector path ih =>
    refine ih ⟨⟨⟨h, by decide⟩, ⟨trivial, trivial⟩, trivial⟩, by decide⟩

/-- The literals of a frame are the selectors of the path to it, in order. -/
theorem literals_inFrames (root : Expression) (path : List Text) :
    (root.inFrames path).literals = root.literals ++ path := by
  unfold inFrames
  induction path generalizing root with
  | nil => rw [List.foldl_nil, List.append_nil]
  | cons selector path ih =>
    rw [List.foldl_cons, ih]
    simp [invoke, literals, literalsOfItems, literalsOfKeywords]

end Expression

theorem Event.hasPlainNames_root (event : Event) : event.root.HasPlainNames := by
  have hpage : (Expression.name event.page).HasPlainNames := event.isPlain_page
  exact hpage.inFrames event.framePath

theorem Event.literals_root (event : Event) : event.root.literals = event.framePath := by
  rw [Event.root, Expression.literals_inFrames, Expression.literals, List.nil_append]

section Locators

open Expression

variable {target root : Expression}

private theorem keywordsHavePlainNames_exact (exact : Bool) :
    KeywordsHavePlainNames (Link.exactKeyword exact) := by
  cases exact
  · trivial
  · exact ⟨by decide, trivial, trivial⟩

theorem StateValue.hasPlainNames_expression (value : StateValue) :
    value.expression.HasPlainNames := by
  cases value <;> trivial

theorem Link.hasPlainNames_apply (h : target.HasPlainNames) (link : Link) :
    (link.apply target).HasPlainNames := by
  have hcall {method content : Text} {keywords : List (Text × Expression)}
      (hm : Text.IsPlain method) (hk : KeywordsHavePlainNames keywords) :
      (Link.call target method content keywords).HasPlainNames :=
    ⟨⟨h, hm⟩, ⟨trivial, trivial⟩, hk⟩
  cases link with
  | role role name exact states =>
    refine hcall (by decide) ((keywordsHavePlainNames_iff _).2 fun keyword hk => ?_)
    rcases List.mem_append.1 hk with hk | hk
    · rcases List.mem_append.1 hk with hk | hk
      · obtain ⟨n, -, rfl⟩ := List.mem_map.1 hk
        exact ⟨show Text.IsPlain ("name" : Text) from by decide, trivial⟩
      · exact (keywordsHavePlainNames_iff _).1 (keywordsHavePlainNames_exact exact) keyword hk
    · obtain ⟨⟨state, value⟩, -, rfl⟩ := List.mem_map.1 hk
      exact ⟨state.isPlain_keyword, value.hasPlainNames_expression⟩
  | byText kind content exact =>
    exact hcall kind.isPlain_method (keywordsHavePlainNames_exact exact)
  | testId id => exact hcall (by decide) trivial
  | selector s => exact hcall (by decide) trivial
  | nth position => exact ⟨⟨h, by decide⟩, ⟨trivial, trivial⟩, trivial⟩
  | first => exact ⟨h, by decide⟩
  | last => exact ⟨h, by decide⟩

theorem Link.literals_prefix_apply (target : Expression) (link : Link) :
    target.literals <+: (link.apply target).literals := by
  cases link with
  | first | last => exact List.prefix_rfl
  | role | byText | testId | selector | nth => exact List.prefix_append ..

theorem Locator.hasPlainNames_expression (h : root.HasPlainNames) (locator : Locator) :
    (locator.expression root).HasPlainNames := by
  unfold Locator.expression
  induction locator generalizing root with
  | nil => exact h
  | cons link locator ih => exact ih (link.hasPlainNames_apply h)

/-- The literals of what a locator starts from come before its own. -/
theorem Locator.literals_prefix_expression (root : Expression) (locator : Locator) :
    root.literals <+: (locator.expression root).literals := by
  unfold Locator.expression
  induction locator generalizing root with
  | nil => exact List.prefix_rfl
  | cons link locator ih => exact (link.literals_prefix_apply root).trans (ih _)

end Locators

/-- The line is a call, and the literals of its arguments have these values. What is called and what
stands between the last brackets are code each, so that no literal or bracket reaches from one into
the other. -/
def Text.IsCallWith (line : Text) (values : List Text) : Prop :=
  ∃ (callee arguments : Text) (front : List Text), line = callee ++ "(" ++ arguments ++ ")" ∧
    Text.IsCode callee front ∧ Text.IsCode arguments values

namespace Expression

/-- The expression calls a method of `receiver`, and the literals of its arguments are `texts`. -/
def IsCallOn (e receiver : Expression) (texts : List Text) : Prop :=
  ∃ method arguments keywords, e = .call (.member receiver method) arguments keywords ∧
    Text.IsPlain method ∧ ItemsHavePlainNames arguments ∧ KeywordsHavePlainNames keywords ∧
    literalsOfItems arguments ++ literalsOfKeywords keywords = texts

variable {e receiver : Expression} {method : Text} {arguments : List Expression}
  {keywords : List (Text × Expression)} {texts : List Text}

theorem isCallOn_invoke (hm : Text.IsPlain method) (ha : ItemsHavePlainNames arguments) :
    (receiver.invoke method arguments).IsCallOn receiver (literalsOfItems arguments) :=
  ⟨method, arguments, [], rfl, hm, ha, trivial, List.append_nil _⟩

theorem isCallOn_invokeWith (hm : Text.IsPlain method) (hk : KeywordsHavePlainNames keywords) :
    (receiver.invokeWith method keywords).IsCallOn receiver (literalsOfKeywords keywords) :=
  ⟨method, [], keywords, rfl, hm, trivial, hk, rfl⟩

namespace IsCallOn

theorem hasPlainNames (h : e.IsCallOn receiver texts) (hr : receiver.HasPlainNames) :
    e.HasPlainNames := by
  obtain ⟨method, arguments, keywords, rfl, hm, ha, hk, -⟩ := h
  exact ⟨⟨hr, hm⟩, ha, hk⟩

theorem literals_eq (h : e.IsCallOn receiver texts) : e.literals = receiver.literals ++ texts := by
  obtain ⟨method, arguments, keywords, rfl, -, -, -, rfl⟩ := h
  rfl

theorem isCallWith_print (h : e.IsCallOn receiver texts) (hr : receiver.HasPlainNames) :
    Text.IsCallWith e.print texts := by
  obtain ⟨method, arguments, keywords, rfl, hm, ha, hk, rfl⟩ := h
  refine ⟨(Expression.member receiver method).print, printArguments arguments keywords,
    receiver.literals, rfl, ?_, isCode_printArguments ha hk⟩
  exact isCode_print (.member receiver method) ⟨hr, hm⟩

end IsCallOn

end Expression

section Arguments

open Expression

/-- One value or several, as a list. -/
def Values.toList : Values → List Text
  | .one value => [value]
  | .many values => values

private theorem literalsOfItems_text (texts : List Text) :
    literalsOfItems (texts.map .text) = texts := by
  induction texts with
  | nil => rfl
  | cons text texts ih => simp [literalsOfItems, literals, ih]

private theorem itemsHavePlainNames_text (texts : List Text) :
    ItemsHavePlainNames (texts.map .text) := by
  refine (itemsHavePlainNames_iff _).2 fun item h => ?_
  obtain ⟨text, -, rfl⟩ := List.mem_map.1 h
  trivial

theorem Values.hasPlainNames_expression (values : Values) : values.expression.HasPlainNames := by
  unfold Values.expression
  split
  · trivial
  · trivial
  · exact itemsHavePlainNames_text _

theorem Values.literals_expression (values : Values) :
    values.expression.literals = values.toList := by
  unfold Values.expression
  split
  · rfl
  · rfl
  · exact literalsOfItems_text _

theorem Event.keywordsHavePlainNames_position (event : Event) :
    KeywordsHavePlainNames event.positionKeyword := by
  unfold Event.positionKeyword
  cases event.position with
  | none => trivial
  | some position => exact ⟨by decide, ⟨trivial, trivial, trivial⟩, trivial⟩

theorem Event.keywordsHavePlainNames_click (event : Event) :
    KeywordsHavePlainNames event.clickKeywords := by
  refine (keywordsHavePlainNames_iff _).2 fun keyword hk => ?_
  rcases List.mem_append.1 hk with hk | hk
  · rcases List.mem_append.1 hk with hk | hk
    · split at hk
      · split at hk
        · cases hk
        · cases List.mem_singleton.1 hk
          exact ⟨show Text.IsPlain ("button" : Text) from by decide, trivial⟩
      · cases hk
    · split at hk
      · cases hk
      · cases List.mem_singleton.1 hk
        exact ⟨show Text.IsPlain ("modifiers" : Text) from by decide, itemsHavePlainNames_text _⟩
  · exact (keywordsHavePlainNames_iff _).1 event.keywordsHavePlainNames_position keyword hk

end Arguments

/-- The recorded texts that an event's action has to hand on as its arguments, by the name of the
action: an address, a text, a snapshot, a value that is not blank, options, files. An address or a
text that is missing is empty, and so are options; no files are no arguments. -/
def Event.recorded? (event : Event) : Option (List Text) :=
  (List.lookup event.name
    [("navigate", some [event.url.getD []]),
      ("fill", some [event.text.getD []]),
      ("assertText", some [event.text.getD []]),
      ("assertSnapshot", some [event.snapshot.getD []]),
      ("assertValue", (event.value.filter (!Text.isBlank ·)).map ([·])),
      ("select", some ((event.options.map Values.toList).getD [[]])),
      ("setInputFiles", some ((event.files.map Values.toList).getD []))]).join

section Actions

open Expression

variable {event : Event} {target : Expression}

theorem Action.mem_names {name : Text} {action : Action} (h : ofName? name = some action) :
    (name, action) ∈ names :=
  mem_of_lookup h

/-- The recorded texts that an action has to hand on. -/
def Action.recorded? (event : Event) : Action → Option (List Text)
  | .page .navigate => some [event.url.getD []]
  | .interaction .fill | .assertion .text => some [event.text.getD []]
  | .interaction .select => some ((event.options.map Values.toList).getD [[]])
  | .interaction .setInputFiles => some ((event.files.map Values.toList).getD [])
  | .assertion .value => (event.value.filter (!Text.isBlank ·)).map ([·])
  | .assertion .snapshot => some [event.snapshot.getD []]
  | .page _ | .interaction _ | .assertion _ => none

/-- The table of names has the texts of the action that the name is the name of. -/
theorem Event.recorded?_eq {action : Action} (h : Action.ofName? event.name = some action) :
    event.recorded? = action.recorded? event := by
  have hentries : ∀ entry ∈ Action.names, event.name = entry.1 →
      event.recorded? = entry.2.recorded? event := by
    intro entry hentry hname
    rw [recorded?, hname]
    simp only [Action.names, List.mem_cons, List.not_mem_nil, or_false] at hentry
    rcases hentry with rfl | rfl | rfl | rfl | rfl | rfl | rfl | rfl | rfl | rfl | rfl | rfl | rfl |
      rfl | rfl | rfl <;> rfl
  exact hentries _ (Action.mem_names h) rfl

theorem Interaction.isCallOn_expression {action : Interaction}
    (h : Action.ofName? event.name = some (.interaction action)) (target : Expression) :
    ∃ texts, (action.expression event target).IsCallOn target texts ∧
      ∀ recorded, event.recorded? = some recorded → recorded = texts := by
  -- only what is filled in, chosen or uploaded is recorded for the argument
  rw [Event.recorded?_eq h]
  cases action with
  | click =>
    unfold Interaction.expression
    dsimp only
    split
    · exact ⟨_, isCallOn_invoke (by decide) trivial, nofun⟩
    · split
      · exact ⟨_, isCallOn_invokeWith (by decide) ⟨by decide, trivial, trivial⟩, nofun⟩
      · exact ⟨_, isCallOn_invokeWith (by decide) event.keywordsHavePlainNames_click, nofun⟩
  | fill =>
    refine ⟨_, isCallOn_invoke (by decide) ⟨trivial, trivial⟩, fun recorded hr => ?_⟩
    exact (Option.some.inj hr).symm
  | press => exact ⟨_, isCallOn_invoke (by decide) ⟨trivial, trivial⟩, nofun⟩
  | hover =>
    exact ⟨_, isCallOn_invokeWith (by decide) event.keywordsHavePlainNames_position, nofun⟩
  | check => exact ⟨_, isCallOn_invoke (by decide) trivial, nofun⟩
  | uncheck => exact ⟨_, isCallOn_invoke (by decide) trivial, nofun⟩
  | select =>
    refine ⟨_, isCallOn_invoke (by decide) ⟨?_, trivial⟩, fun recorded hr => ?_⟩
    · cases event.options with
      | none => trivial
      | some options => exact options.hasPlainNames_expression
    · rw [← Option.some.inj hr]
      cases event.options with
      | none => rfl
      | some options => simp [literalsOfItems, options.literals_expression]
  | setInputFiles =>
    refine ⟨_, isCallOn_invoke (by decide) ⟨?_, trivial⟩, fun recorded hr => ?_⟩
    · cases event.files with
      | none => trivial
      | some files => exact files.hasPlainNames_expression
    · rw [← Option.some.inj hr]
      cases event.files with
      | none => rfl
      | some files => simp [literalsOfItems, files.literals_expression]

/-- What an assertion is about, as an expression. -/
def expectation (target : Expression) : Expression :=
  .call (.name assertionImport.name) [target] []

theorem hasPlainNames_expectation (h : target.HasPlainNames) :
    (expectation target).HasPlainNames :=
  ⟨show Text.IsPlain ("expect" : Text) from by decide, ⟨h, trivial⟩, trivial⟩

theorem literals_expectation (target : Expression) :
    (expectation target).literals = target.literals := by
  simp [expectation, literals, literalsOfItems, literalsOfKeywords]

theorem Assertion.isCallOn_expression {action : Assertion}
    (h : Action.ofName? event.name = some (.assertion action)) (target : Expression) :
    ∃ texts, (action.expression event target).IsCallOn (expectation target) texts ∧
      ∀ recorded, event.recorded? = some recorded → recorded = texts := by
  rw [Event.recorded?_eq h]
  cases action with
  | text =>
    refine ⟨_, isCallOn_invoke ?_ ⟨trivial, trivial⟩, fun recorded hr => ?_⟩
    · split <;> decide
    · exact (Option.some.inj hr).symm
  | visible => exact ⟨_, isCallOn_invoke (by decide) trivial, nofun⟩
  | checked =>
    refine ⟨_, isCallOn_invoke ?_ trivial, nofun⟩
    split <;> decide
  | value =>
    unfold Assertion.expression Action.recorded?
    dsimp only
    split
    · next v hv =>
      split
      · next hb => exact ⟨_, isCallOn_invoke (by decide) trivial, by simp [hv, hb]⟩
      · next hb =>
        exact ⟨_, isCallOn_invoke (by decide) ⟨trivial, trivial⟩,
          by simp [hv, hb, literalsOfItems, literals]⟩
    · next hv => exact ⟨_, isCallOn_invoke (by decide) trivial, by simp [hv]⟩
  | snapshot =>
    refine ⟨_, isCallOn_invoke (by decide) ⟨trivial, trivial⟩, fun recorded hr => ?_⟩
    exact (Option.some.inj hr).symm

end Actions

end Playback
