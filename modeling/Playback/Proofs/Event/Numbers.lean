import Playback.Proofs.Code.Values
import Playback.Proofs.Event.Click
import Playback.Proofs.Event.Names
import Playback.Proofs.Locator.Refining
import Playback.Proofs.Locator.RoleArguments
import Playback.Proofs.Locator.Segments
import Playback.Proofs.Number.Literal
import Playback.Proofs.Number.Numeral
import Playback.Proofs.Recording.Fields

/-!
# Recorded numbers in the code of an event

Numbers reach the code of an action from four places: the position and the number of clicks of the
event, and positions and states in the description of its target.

* `Link.holdsNumbers_written`, `Interaction.holdsNumbers_print` and the like: the code of each part
  of an action has the numbers of the part as whole values.
* `Json.Members.RecordsNumber`: a number is in the record of an event.
  `Event.IsReadFrom.recordsNumber`: so is each number in the code.
* `Event.numbers_written`: the numbers in the code are numbers of the record, and each of them is
  written as a literal exactly if it is finite.
-/

namespace Playback

open Text (HoldsNumbers HaveNumbers IsValueOf)

/-! ## Numbers of a target -/

theorem Text.IsName.notMem_quote {t : Text} (h : t.IsName) : .char '"' ∉ t := fun hmem =>
  absurd (h _ hmem) (by decide)

theorem StateValue.isValueOf_print (value : StateValue) :
    value.expression.print.IsValueOf value.numbers := by
  cases value with
  | bool value => exact .inl (Text.IsPlain.isCode (by cases value <;> decide)).holdsNumbers
  | number n => exact .inr ⟨n, rfl, rfl⟩
  | text value => exact .inl (Text.isCode_encode value).holdsNumbers

namespace Link

theorem haveNumbers_exact (exact : Bool) : HaveNumbers (exactArgument exact) [] := by
  refine Text.haveNumbers_optional (by decide) ?_
  rintro v hv
  cases exact with
  | false => cases hv
  | true =>
    cases hv
    exact Text.holdsNumbers_of_notMem (by decide)

theorem haveNumbers_states (states : List (AriaState × StateValue)) :
    HaveNumbers (stateArguments states) (states.flatMap fun (_, value) => value.numbers) := by
  induction states with
  | nil => exact .nil
  | cons state states ih =>
    exact .cons state.1.isName_keyword.notMem_quote state.2.isValueOf_print ih

theorem haveNumbers_role (name : Option Text) (exact : Bool)
    (states : List (AriaState × StateValue)) :
    HaveNumbers (roleArguments name exact states)
      (states.flatMap fun (_, value) => value.numbers) := by
  have hname : HaveNumbers (optionalArgument "name" (name.map Quoted.encode)) [] := by
    refine Text.haveNumbers_optional (by decide) fun v hv => ?_
    obtain ⟨n, -, rfl⟩ := Option.map_eq_some_iff.1 hv
    exact (Text.isCode_encode n).holdsNumbers
  exact hname.append ((haveNumbers_exact exact).append (haveNumbers_states states))

end Link

theorem Step.holdsNumbers_called (content : Text) {keywords : List (Text × Text)}
    {numbers : List Number} (h : HaveNumbers keywords numbers) :
    (called content keywords).HoldsNumbers numbers := by
  have hlast : HoldsNumbers [.char ')'] [] := Text.holdsNumbers_of_notMem (by decide)
  have hkeywords := Text.holdsNumbers_keywordsBehind h hlast
  rw [List.append_nil] at hkeywords
  have hlead : .char '"' ∉ ("(" : Text) := by decide
  exact ((Text.isCode_encode content).holdsNumbers.append hkeywords).behind hlead

/-- A step along a link has the numbers of the link. -/
theorem Link.holdsNumbers_written (link : Link) :
    (Step.link link).written.HoldsNumbers link.numbers := by
  have harguments : (Step.link link).arguments.HoldsNumbers link.numbers := by
    cases link with
    | role role name exact states => exact Step.holdsNumbers_called role (haveNumbers_role ..)
    | byText kind content exact => exact Step.holdsNumbers_called content (haveNumbers_exact exact)
    | testId id => exact Step.holdsNumbers_called id .nil
    | selector selector => exact Step.holdsNumbers_called selector .nil
    | nth position =>
      have hlast : HoldsNumbers [.char ')'] [] := Text.holdsNumbers_of_notMem (by decide)
      exact Text.HoldsNumbers.value_append (.inr ⟨.int position, rfl, rfl⟩) (by decide)
        (Text.endsValue_cons (by decide) _) hlast
    | first | last => exact Text.holdsNumbers_of_notMem (by decide)
  have hname : .char '"' ∉ (.char '.' :: (Step.link link).kind.name : Text) := by
    rw [List.mem_cons, not_or]
    exact ⟨by decide, (StepKind.isName_name _).notMem_quote⟩
  exact harguments.behind hname

theorem Locator.holdsNumbers_print {root : Expression} {values : List Text}
    (h : root.print.IsCode values) (locator : Locator) :
    (locator.expression root).print.HoldsNumbers (locator.flatMap Link.numbers) := by
  have hlinks : Text.HoldsNumbers (locator.flatMap fun link => (Step.link link).written)
      (locator.flatMap Link.numbers) := by
    induction locator with
    | nil => exact Text.holdsNumbers_of_notMem List.not_mem_nil
    | cons link locator ih => exact link.holdsNumbers_written.append ih
  rw [print_expression_eq]
  exact h.holdsNumbers.append hlinks

/-! ## Numbers of an action -/

namespace Expression

variable {target : Expression} {method : Text} {ns : List Number}

/-- A call has the numbers of what it is called on. -/
theorem IsCallOn.holdsNumbers {e receiver : Expression} {texts : List Text}
    (h : e.IsCallOn receiver texts) (hr : receiver.print.HoldsNumbers ns) :
    e.print.HoldsNumbers ns := by
  obtain ⟨method, arguments, keywords, rfl, hm, ha, hk, -⟩ := h
  have hname : Text.IsCode (.char '.' :: method) [] := (hm.cons (by decide)).isCode
  have hcall := hname.append ((isCode_printArguments ha hk).bracketed (o := .char '(') rfl)
  have hprint : (call (member receiver method) arguments keywords).print = receiver.print ++
      ((.char '.' :: method) ++
        .char '(' :: (printArguments arguments keywords ++ [.char ')'])) := by
    simp [Expression.print, printArguments, Text.ofString]
  rw [hprint, ← List.append_nil ns]
  exact hr.append hcall.holdsNumbers

/-- A call with keywords has the numbers of what it is called on, and those of the keywords. -/
theorem holdsNumbers_invokeWith {keywords : List (Text × Expression)} {ms : List Number}
    (hm : method.IsName) (ht : target.print.HoldsNumbers ns)
    (hk : HaveNumbers (printed keywords) ms) :
    (target.invokeWith method keywords).print.HoldsNumbers (ns ++ ms) := by
  have hlast : HoldsNumbers [.char ')'] [] := Text.holdsNumbers_of_notMem (by decide)
  have hkeywords := Text.holdsNumbers_keywords hk hlast
  rw [List.append_nil, ← printKeywords_eq] at hkeywords
  have hname : .char '"' ∉ (.char '.' :: (method ++ [.char '(']) : Text) := by
    simp only [List.mem_cons, List.mem_append, List.not_mem_nil, or_false, not_or]
    exact ⟨by decide, hm.notMem_quote, by decide⟩
  have hprint := ht.append (hkeywords.behind hname)
  rw [print_invokeWith]
  simpa using hprint

end Expression

/-- A position has its two numbers. -/
theorem Position.holdsNumbers_print (position : Position) :
    position.expression.print.HoldsNumbers [position.x, position.y] := by
  have hx : HoldsNumbers "\x7b\"x\":" [] := ⟨_, rfl, Piece.holdNumbers_nil _⟩
  have hy : HoldsNumbers ", \"y\":" [] := ⟨_, rfl, Piece.holdNumbers_nil _⟩
  have hlast : HoldsNumbers [.char '}'] [] := Text.holdsNumbers_of_notMem (by decide)
  have hsecond : HoldsNumbers (.char ' ' :: (position.y.shown ++ [.char '}'])) [position.y] :=
    Text.HoldsNumbers.value_append (.inr ⟨position.y, rfl, rfl⟩) (by decide)
      ⟨_, rfl, by decide⟩ hlast
  have hfirst : HoldsNumbers (.char ' ' :: (position.x.shown ++ ((", \"y\":" : Text) ++
      .char ' ' :: (position.y.shown ++ [.char '}'])))) [position.x, position.y] :=
    Text.HoldsNumbers.value_append (.inr ⟨position.x, rfl, rfl⟩) (by decide)
      ⟨.char ',', rfl, by decide⟩ (hy.append hsecond)
  have hprint : position.expression.print = ("\x7b\"x\":" : Text) ++ .char ' ' ::
      (position.x.shown ++ ((", \"y\":" : Text) ++
        .char ' ' :: (position.y.shown ++ [.char '}']))) := by
    rw [print_expression, inside]
    simp [Text.ofString]
  rw [hprint]
  exact hx.append hfirst

namespace Event

theorem haveNumbers_position (event : Event) :
    HaveNumbers (Expression.printed event.positionKeyword) event.positionNumbers := by
  unfold positionKeyword positionNumbers
  cases event.position with
  | none => exact .nil
  | some position => exact .cons (by decide) (.inl position.holdsNumbers_print) .nil

theorem haveNumbers_single (event : Event) :
    HaveNumbers (Expression.printed event.clickKeywords) event.positionNumbers := by
  have hbutton : ∀ v ∈ event.buttonOption, v.HoldsNumbers [] := by
    intro v hv
    unfold buttonOption at hv
    split at hv <;> cases hv
    exact (Text.isCode_encode _).holdsNumbers
  have hkeys : ∀ v ∈ event.keysOption, v.HoldsNumbers [] := by
    intro v hv
    unfold keysOption at hv
    split at hv <;> cases hv
    refine (Expression.isCode_print _ ?_).holdsNumbers
    refine (Expression.itemsHavePlainNames_iff _).2 fun item h => ?_
    obtain ⟨key, -, rfl⟩ := List.mem_map.1 h
    trivial
  have hpoint := event.haveNumbers_position
  rw [printed_positionKeyword] at hpoint
  rw [printed_clickKeywords, singleOptions]
  exact (Text.haveNumbers_optional (by decide) hbutton).append
    ((Text.haveNumbers_optional (by decide) hkeys).append hpoint)

end Event

variable {event : Event} {target : Expression} {ns : List Number}

/-- What happens to a target has the numbers of the target, and its own behind them. -/
theorem Interaction.holdsNumbers_print {action : Interaction}
    (h : Action.ofName? event.name = some (.interaction action))
    (ht : target.print.HoldsNumbers ns) :
    (action.expression event target).print.HoldsNumbers (ns ++ action.numbers event) := by
  have hcall : (action.expression event target).print.HoldsNumbers ns := by
    obtain ⟨texts, hcall, -⟩ := action.isCallOn_expression h target
    exact hcall.holdsNumbers ht
  cases action with
  | click =>
    by_cases htwo : event.clicks = 2
    · simpa [numbers, htwo] using hcall
    -- The number of clicks is shown in place of the options of a single one.
    by_cases hmore : event.clicks > 2
    · have hcount : HaveNumbers
          (Expression.printed [("click_count", .number (.int event.clicks))])
          ([.int event.clicks] ++ []) :=
        .cons (by decide) (.inr ⟨_, rfl, rfl⟩) .nil
      have hcounted := Expression.holdsNumbers_invokeWith (by decide : ("click" : Text).IsName) ht
        hcount
      simpa [expression, numbers, htwo, hmore] using hcounted
    · have hsingle := Expression.holdsNumbers_invokeWith (by decide : ("click" : Text).IsName) ht
        event.haveNumbers_single
      simpa [expression, numbers, htwo, hmore] using hsingle
  | hover => exact Expression.holdsNumbers_invokeWith (by decide) ht event.haveNumbers_position
  | fill | press | check | uncheck | select | setInputFiles => simpa [numbers] using hcall

/-- What is asserted about a target has the numbers of the target. -/
theorem Assertion.holdsNumbers_print {action : Assertion}
    (h : Action.ofName? event.name = some (.assertion action))
    (ht : target.print.HoldsNumbers ns) :
    (action.expression event target).print.HoldsNumbers ns := by
  obtain ⟨texts, hcall, -⟩ := action.isCallOn_expression h target
  refine hcall.holdsNumbers ?_
  have hlast : HoldsNumbers [.char ')'] [] := Text.holdsNumbers_of_notMem (by decide)
  have hlead : .char '"' ∉ ("expect(" : Text) := by decide
  have hprint : (expectation target).print =
      ("expect(" : Text) ++ (target.print ++ [.char ')']) := by
    simp [expectation, Expression.print, Expression.printItems, Expression.printKeywords,
      assertionImport, Text.joined, List.intercalate, Text.ofString]
  rw [hprint, ← List.append_nil ns]
  exact (ht.append hlast).behind hlead

namespace Event

/-- The code of an action has the numbers of the event, as whole values outside literals. -/
theorem holdsNumbers_actionSnippet {own : Snippet} (h : event.actionSnippet.result = .ok own) :
    own.text.HoldsNumbers event.numbers := by
  have htarget {locator : Locator} (hl : event.HasLocator locator) :
      (locator.expression event.root).print.HoldsNumbers event.targetNumbers := by
    obtain ⟨log, hl⟩ := hl
    have hnumbers : event.targetNumbers = locator.flatMap Link.numbers := by
      rw [targetNumbers, hl]
    rw [hnumbers]
    exact Locator.holdsNumbers_print (Expression.isCode_print _ event.hasPlainNames_root) locator
  have hsingle (line : Text) : Text.joined "\n" [line] = line := by
    simp [Text.joined, List.intercalate]
  rcases actionSnippet_eq_ok_iff.1 h with ⟨action, hname, rfl⟩ | ⟨action, locator, hname, hl, rfl⟩ |
    ⟨action, locator, hname, hl, rfl⟩
  · have hlines : ∀ line ∈ (Snippet.ofStatements (action.statements event) []).lines,
        line.HoldsNumbers [] := by
      intro line hline
      obtain ⟨values, hcode⟩ := isCode_actionSnippet h line hline
      exact hcode.holdsNumbers
    rw [numbers, hname]
    exact Text.holdsNumbers_joined hlines
  · rw [numbers, hname]
    show HoldsNumbers (Text.joined "\n" [_]) _
    rw [hsingle]
    exact Interaction.holdsNumbers_print hname (htarget hl)
  · rw [numbers, hname]
    show HoldsNumbers (Text.joined "\n" [_]) _
    rw [hsingle]
    exact Assertion.holdsNumbers_print hname (htarget hl)

end Event

/-! ## Numbers of a record -/

/-- The value that is given for a state is the number: as it is, or, for a level, in digits. -/
inductive AriaState.GivesNumber (state : AriaState) : Json → Number → Prop
  | number (n : Number) : GivesNumber state (.number n) n
  | digits {t : Text} (hs : state = .level) (ht : t.IsNumeral) :
    GivesNumber state (.text t) (.int t.numeralValue)

/-- The description of a target has the number: as a position in a chain, or as a state of a role
there. -/
inductive Json.DescribesNumber (description : Json) : Number → Prop
  | position {chain : List Description} {d : Description} (hc : description.DescribesChain chain)
    (hd : d ∈ chain) (hk : d.kind = ("nth" : Text)) (hb : d.body.IsNumeral) :
    DescribesNumber description (.int d.body.numeralValue)
  | state {chain : List Description} {d : Description} {state : AriaState} {a : Attribute}
    {n : Number} (hc : description.DescribesChain chain) (hd : d ∈ chain)
    (hk : d.kind = ("role" : Text)) (ha : d.options.last? state = some a)
    (hn : state.GivesNumber a.value n) : DescribesNumber description n

/-- The record of an event has the number: in its position, as its number of clicks, or in the
description of its target. -/
inductive Json.Members.RecordsNumber (members : Json.Members) : Number → Prop
  | position {key name : Text} {point : Json.Members} {field : Field} {value : Json} {n : Number}
    (hp : members.entry? Event.positionField = some (key, .object point))
    (hf : field = Position.xField ∨ field = Position.yField)
    (hv : point.entry? field = some (name, value)) (hn : Json.readNumber value = .valid n) :
    RecordsNumber members n
  | clickCount {name : Text} {value : Json} {i : Int}
    (hv : members.entry? Event.clickCountField = some (name, value))
    (hi : Json.readInteger value = .valid i) : RecordsNumber members (.int i)
  | described {name : Text} {description : Json} {n : Number}
    (hd : members.entry? Event.locatorField = some (name, description))
    (hn : description.DescribesNumber n) : RecordsNumber members n

theorem AriaState.givesNumber_of_read {state : AriaState} {value : Json} {result : StateValue}
    {n : Number} (h : StateValue.read state value = .ok result) (hn : n ∈ result.numbers) :
    state.GivesNumber value n := by
  cases value with
  | number m =>
    cases h
    cases List.mem_singleton.1 hn
    exact .number n
  | text t =>
    rw [StateValue.read] at h
    split at h
    · next hdigits =>
      obtain ⟨i, hread, h⟩ := bind_eq_ok_iff.1 h
      cases h
      cases List.mem_singleton.1 hn
      obtain ⟨ht, rfl⟩ := Integer.read_eq_ok_iff.1 hread
      exact .digits hdigits.1 ht
    · cases h
      cases hn
  | null | bool | list | object =>
    cases h
    cases hn

/-- The numbers of a link are in its description. -/
theorem Description.describesNumber_of_link? {description : Json} {chain : List Description}
    {d : Description} {link : Link} {n : Number} (hc : description.DescribesChain chain)
    (hd : d ∈ chain) (h : d.link? = .ok (some link)) (hn : n ∈ link.numbers) :
    description.DescribesNumber n := by
  by_cases hrole : d.kind = ("role" : Text)
  · rw [link?_role hrole] at h
    obtain ⟨states, hstates, h⟩ := bind_eq_ok_iff.1 h
    cases h
    obtain ⟨⟨state, result⟩, hmem, hn⟩ := List.mem_flatMap.1 hn
    obtain ⟨a, ha, hread⟩ :=
      ((DescriptionOptions.hasStates_of_states hstates).value_iff state result).1 hmem
    exact .state hc hd hrole ha (AriaState.givesNumber_of_read hread hn)
  · unfold link? at h
    rw [if_neg hrole] at h
    split at h
    · cases h
      cases hn
    split at h
    · cases h
      cases hn
    split at h
    · cases h
      cases hn
    split at h
    · next hkind =>
      obtain ⟨position, hread, h⟩ := bind_eq_ok_iff.1 h
      cases h
      cases List.mem_singleton.1 hn
      obtain ⟨hb, rfl⟩ := Integer.read_eq_ok_iff.1 hread
      exact .position hc hd hkind.1 hb
    split at h
    · cases h
      cases hn
    split at h
    · cases h
      cases hn
    · cases h

/-- The numbers of a locator are in the description that it comes from. -/
theorem Locator.describesNumber_of_ofTarget {selector : Option Text} {description : Json}
    {locator : Locator} {log : Log} {n : Number}
    (h : ofTarget selector description = .ok (locator, log))
    (hn : n ∈ locator.flatMap Link.numbers) : description.DescribesNumber n := by
  have hplain {link : Link} (hlink : link.isPlain) : ¬ n ∈ [link].flatMap Link.numbers := by
    cases link with
    | role role name exact states =>
      rw [List.isEmpty_iff.1 hlink]
      exact List.not_mem_nil
    | byText | testId | selector => exact List.not_mem_nil
    | nth | first | last => cases hlink
  cases resolves_of_ofTarget h with
  | described hsome =>
    rcases described_cases hsome with ⟨members, chain, -, -, hchain, hlinks⟩ | ⟨link, rfl, hlink⟩
    · obtain ⟨link, hlink, hn⟩ := List.mem_flatMap.1 hn
      obtain ⟨d, hd, hread⟩ := exists_left_of_forall₂ hlinks hlink
      exact Description.describesNumber_of_link? hchain hd hread hn
    · exact absurd hn (hplain hlink)
  | selector => exact absurd hn (hplain (Selector.isPlain_link _))
  | body | nothing => exact absurd hn (hplain rfl)

namespace Event

open Json.Members (required_eq_valid_iff optional_eq_valid_iff)

variable {members : Json.Members} {n : Number}

theorem IsReadFrom.recordsNumber_position (h : event.IsReadFrom members)
    (hn : n ∈ event.positionNumbers) : members.RecordsNumber n := by
  obtain ⟨position, hposition, hn⟩ := List.mem_flatMap.1 hn
  have hread := h.position
  rw [Option.mem_toList.1 hposition] at hread
  rcases optional_eq_valid_iff.1 hread with ⟨-, ⟨⟩⟩ | ⟨⟨key, value⟩, hentry, hread⟩
  cases value with
  | object point =>
    obtain ⟨_, hpoint, ⟨⟩⟩ := Checked.map_eq_valid_iff.1 hread
    have hfields := (Position.read_eq_valid_iff.1 hpoint).2
    obtain ⟨_, hx, hreadx⟩ := required_eq_valid_iff.1 hfields.x
    obtain ⟨_, hy, hready⟩ := required_eq_valid_iff.1 hfields.y
    rcases List.mem_cons.1 hn with rfl | hn
    · exact .position hentry (.inl rfl) hx hreadx
    · cases List.mem_singleton.1 hn
      exact .position hentry (.inr rfl) hy hready
  | null | bool | number | text | list => cases hread

theorem IsReadFrom.recordsNumber_target (h : event.IsReadFrom members)
    (hn : n ∈ event.targetNumbers) : members.RecordsNumber n := by
  unfold targetNumbers at hn
  split at hn
  · next locator log htarget =>
    have hdescribed := Locator.describesNumber_of_ofTarget htarget hn
    rcases optional_eq_valid_iff.1 h.locator with ⟨-, habsent⟩ | ⟨⟨name, value⟩, hentry, hvalue⟩
    · rw [← habsent] at hdescribed
      cases hdescribed with
      | position hc | state hc => cases hc
    · cases hvalue
      exact .described hentry hdescribed
  · cases hn

theorem IsReadFrom.recordsNumber_action {action : Interaction} (h : event.IsReadFrom members)
    (hn : n ∈ action.numbers event) : members.RecordsNumber n := by
  cases action with
  | click =>
    unfold Interaction.numbers at hn
    dsimp only at hn
    split at hn
    · cases hn
    split at hn
    · next hmore =>
      cases List.mem_singleton.1 hn
      have hcount : event.clickCount = some event.clicks := by
        unfold clicks at hmore ⊢
        split at hmore <;> simp_all
      have hread := h.clickCount
      rw [hcount] at hread
      rcases optional_eq_valid_iff.1 hread with ⟨-, ⟨⟩⟩ | ⟨⟨name, value⟩, hentry, hread⟩
      refine .clickCount hentry ?_
      cases value with
      | null => cases hread
      | bool | number | text | list | object =>
        obtain ⟨_, hvalue, ⟨⟩⟩ := Checked.map_eq_valid_iff.1 hread
        exact hvalue
    · exact h.recordsNumber_position hn
  | hover => exact h.recordsNumber_position hn
  | fill | press | check | uncheck | select | setInputFiles => cases hn

/-- The numbers in the code of an event are in its record. -/
theorem IsReadFrom.recordsNumber (h : event.IsReadFrom members) (hn : n ∈ event.numbers) :
    members.RecordsNumber n := by
  unfold numbers at hn
  split at hn
  · rcases List.mem_append.1 hn with hn | hn
    · exact h.recordsNumber_target hn
    · exact h.recordsNumber_action hn
  · exact h.recordsNumber_target hn
  · cases hn

/-- Numbers reach the code of an action as whole values outside literals. They are numbers of the
record, and each of them is written as a literal exactly if it is finite; a whole number is written
as a literal of itself. -/
theorem numbers_written {own : Snippet} (hread : read members = .valid event)
    (h : event.actionSnippet.result = .ok own) :
    own.text.HoldsNumbers event.numbers ∧ ∀ n ∈ event.numbers, members.RecordsNumber n ∧
      (n.shown.IsNumberLiteral ↔ n.isFinite) ∧
      ∀ i, n = .int i → n.shown.WritesInteger i := by
  refine ⟨holdsNumbers_actionSnippet h, fun n hn => ⟨?_, n.isNumberLiteral_shown_iff, ?_⟩⟩
  · exact (read_eq_valid_iff.1 hread).2.recordsNumber hn
  · rintro i rfl
    exact Text.writesInteger_ofInt i

/-- The record of an event that moves the mouse over a target. -/
def hoverRecord (locator : Json) (x y : Number) : Json.Members :=
  [("name", .text "hover"), ("locator", locator),
    ("position", .object [("x", .number x), ("y", .number y)])]

/-- The event of this record. -/
def hovering (locator : Json) (x y : Number) : Event :=
  { Event.bare "hover" with locator := locator, position := some ⟨x, y, []⟩ }

theorem read_hoverRecord (locator : Json) (x y : Number) :
    read (hoverRecord locator x y) = .valid (hovering locator x y) := by
  have hpoint : Position.read [("x", .number x), ("y", .number y)] = .valid ⟨x, y, []⟩ := rfl
  refine read_eq_valid_iff.2 ⟨List.all_eq_true.1 rfl, ?_⟩
  constructor
  case position =>
    refine optional_eq_valid_iff.2 (.inr ⟨("position", _), rfl, ?_⟩)
    exact Checked.map_eq_valid_iff.2 ⟨_, hpoint, rfl⟩
  all_goals rfl

/-- A level in the digits of another script, a position from the end, and a point. -/
theorem numbers_written_lastRow :
    let last : Json := .object [("kind", .text "nth"), ("body", .text "-1")]
    let level : Json := .object [("name", .text "level"), ("value", .text "٢")]
    let row : Json := .object [("kind", .text "role"), ("body", .text "row"),
      ("options", .object [("attrs", .list [level])]), ("next", last)]
    let half : Number := .float (.ofDecimal false 5 (-1))
    let numbers : List Number := [.int 2, .int (-1), half, .int (-3)]
    let line : Text := ("pg.get_by_role(\"row\", level=2).nth(-1)" : Text) ++
      ".hover(position=\x7b\"x\": 0.5, \"y\": -3\x7d)"
    (hovering row half (.int (-3))).actionSnippet.result = .ok ⟨[line], []⟩ ∧
      line.HoldsNumbers numbers ∧ ∀ n ∈ numbers, n.shown.IsNumberLiteral := by
  intro last level row half numbers line
  have hsnippet : (hovering row half (.int (-3))).actionSnippet.result = .ok ⟨[line], []⟩ :=
    toOption_eq_some_iff.1 (by decide +kernel)
  obtain ⟨hholds, hall⟩ := numbers_written (read_hoverRecord row half (.int (-3))) hsnippet
  have hnumbers : (hovering row half (.int (-3))).numbers = numbers := by decide +kernel
  rw [hnumbers] at hholds hall
  have hfinite : ∀ n ∈ numbers, n.isFinite := by decide +kernel
  exact ⟨hsnippet, hholds, fun n hn => (hall n hn).2.1.2 (hfinite n hn)⟩

/-- A coordinate beyond the range of floating-point numbers is written as a word. -/
theorem numbers_written_infinite :
    let selector : Json := .object [("css", .text "a")]
    let infinite : Number := .float (.infinite false)
    read (hoverRecord selector infinite (.int 0)) = .valid (hovering selector infinite (.int 0)) ∧
      (hovering selector infinite (.int 0)).actionSnippet.result =
        .ok ⟨["pg.locator(\"a\").hover(position=\x7b\"x\": inf, \"y\": 0\x7d)"], []⟩ ∧
      infinite.shown = ("inf" : Text) ∧ ¬ Text.IsNumberLiteral "inf" := by
  intro selector infinite
  have hword : ¬ infinite.shown.IsNumberLiteral :=
    mt infinite.isNumberLiteral_shown_iff.1 Bool.false_ne_true
  exact ⟨read_hoverRecord _ _ _, toOption_eq_some_iff.1 (by decide +kernel), rfl, hword⟩

end Event

end Playback
