import Mathlib.Data.List.Sublists
import Playback.Proofs.Code.Keywords
import Playback.Proofs.Event.Signals

/-!
# What the code of a click shows

A click is recorded with a number, a button, modifier keys and a position. The code of a single
click shows the last three; that of several clicks shows their number and nothing else.

* `Event.times`, `Event.clickedButton`, `Event.shownPosition`: what is recorded of a click, with the
  values that are left out of the code where they are missing.
* `Event.SameOptions`: two clicks have the same button, keys and position.
  `Event.singleOptions_eq_iff`: this is what the arguments of single clicks show.
* `Event.click_lines_eq_iff`: two clicks on the same target have the same lines exactly if they have
  the same signals and the same number, and the same options if the number is one.
-/

namespace Playback

/-! ## Positions and keys -/

namespace Position

/-- The text of a position between its brackets. -/
def inside (position : Position) : Text :=
  ("\"x\": " : Text) ++ (position.x.shown ++ .char ',' :: ((" \"y\": " : Text) ++ position.y.shown))

theorem print_expression (position : Position) :
    position.expression.print = .char '{' :: (position.inside ++ [.char '}']) := by
  have hx : Quoted.encode "x" = ("\"x\"" : Text) := by decide
  have hy : Quoted.encode "y" = ("\"y\"" : Text) := by decide
  simp only [expression, Expression.print, Expression.printEntries, hx, hy]
  simp [inside, Text.joined, List.intercalate, Text.ofString]

theorem isOption_print (position : Position) : position.expression.print.IsOption := by
  have hnumeric (n : Number) : CodePoint.char '}' ∉ n.shown := fun h =>
    absurd (n.isNumeric_shown _ h) (by decide)
  rw [print_expression]
  refine .enclosed (by decide) ?_
  simp [inside, hnumeric, Text.ofString]

/-- A position shows its two numbers. -/
theorem print_expression_eq_iff {position position' : Position} :
    position.expression.print = position'.expression.print ↔
      position.x.shown = position'.x.shown ∧ position.y.shown = position'.y.shown := by
  have hcomma := Text.endsNumeric_cons (p := CodePoint.char ',') (by decide)
  rw [print_expression, print_expression]
  constructor
  · intro h
    have hinside := List.append_cancel_right (List.cons.inj h).2
    obtain ⟨hx, h⟩ := position.x.isNumeric_shown.append_inj position'.x.isNumeric_shown
      (hcomma _) (hcomma _) (List.append_cancel_left hinside)
    exact ⟨hx, List.append_cancel_left (List.cons.inj h).2⟩
  · rintro ⟨hx, hy⟩
    rw [inside, hx, hy, inside]

end Position

/-- Keys are held in a fixed order. -/
theorem ModifierKey.held_eq_iff {m m' : Int} :
    held m = held m' ↔ ∀ key, key ∈ held m ↔ key ∈ held m' := by
  have hfilter (m : Int) : held m = all.filter (· ∈ held m) := by
    cases m with
    | ofNat n =>
      refine List.filter_congr fun key hkey => ?_
      simp [held, hkey]
    | negSucc n => simp [held]
  constructor
  · intro h key
    rw [h]
  · intro h
    rw [hfilter m, hfilter m']
    exact List.filter_congr fun key _ => by rw [decide_eq_decide]; exact h key

theorem ModifierKey.held_mem_sublists (m : Int) : held m ∈ all.sublists := by
  rw [List.mem_sublists]
  cases m with
  | ofNat n => exact List.filter_sublist
  | negSucc n => exact List.nil_sublist _

/-! ## What is recorded of a click -/

namespace Event

/-- How often an event clicks; no number and every number below one count as one. -/
def times (event : Event) : Int := max 1 (event.clickCount.getD 1)

/-- The button of a click; no button and an empty one count as the left one. -/
def clickedButton (event : Event) : Text :=
  if event.button.getD [] = [] then "left" else event.button.getD []

/-- The keys that are held down during a click. -/
def keys (event : Event) : List ModifierKey := ModifierKey.held (event.modifiers.getD 0)

/-- The position of a click as it is shown. -/
def shownPosition (event : Event) : Option (Text × Text) :=
  event.position.map fun position => (position.x.shown, position.y.shown)

/-- Two clicks have the same button, the same set of keys and the same position. -/
structure SameOptions (event event' : Event) : Prop where
  button : event.clickedButton = event'.clickedButton
  keys : ∀ key, key ∈ event.keys ↔ key ∈ event'.keys
  position : event.shownPosition = event'.shownPosition

/-- The text of a button in the code; the left one has none. -/
def buttonOption (event : Event) : Option Text :=
  if event.clickedButton = "left" then none else some (Quoted.encode event.clickedButton)

/-- The text of keys in the code. -/
def keysText (keys : List ModifierKey) : Text :=
  (Expression.list (keys.map fun key => .text key.name)).print

/-- The text of an event's keys in the code, if there are any. -/
def keysOption (event : Event) : Option Text :=
  if event.keys = [] then none else some (keysText event.keys)

/-- The text of a position in the code, if there is one. -/
def positionOption (event : Event) : Option Text :=
  event.position.map fun position => position.expression.print

/-- The arguments of a single click. -/
def singleOptions (event : Event) : List (Text × Text) :=
  optionalArgument "button" event.buttonOption ++
    (optionalArgument "modifiers" event.keysOption ++
      optionalArgument "position" event.positionOption)

theorem printed_positionKeyword (event : Event) : Expression.printed event.positionKeyword =
    optionalArgument "position" event.positionOption := by
  unfold positionKeyword positionOption
  cases event.position <;> rfl

theorem printed_clickKeywords (event : Event) :
    Expression.printed event.clickKeywords = event.singleOptions := by
  have hkeys : Expression.printed (if event.heldKeys.isEmpty then [] else
      [("modifiers", .list (event.heldKeys.map .text))]) =
        optionalArgument "modifiers" event.keysOption := by
    have hheld : event.heldKeys = event.keys.map ModifierKey.name := rfl
    by_cases hnone : event.keys = []
    · simp [hheld, keysOption, hnone, Expression.printed, optionalArgument]
    · simp [hheld, keysOption, hnone, Expression.printed, optionalArgument, keysText,
        Function.comp_def]
  unfold clickKeywords singleOptions
  dsimp only
  rw [Expression.printed, List.map_append, List.map_append, List.append_assoc]
  refine congrArg₂ _ ?button (congrArg₂ _ hkeys event.printed_positionKeyword)
  unfold buttonOption clickedButton
  rcases event.button with _ | _ | ⟨p, button⟩
  · rfl
  · rfl
  · by_cases hleft : p :: button = ("left" : Text)
    · simp [hleft, optionalArgument]
    · simp [hleft, optionalArgument, Expression.print]

/-! ## What arguments show -/

theorem buttonOption_eq_iff {event event' : Event} :
    event.buttonOption = event'.buttonOption ↔ event.clickedButton = event'.clickedButton := by
  unfold buttonOption
  constructor
  · intro h
    by_cases hleft : event.clickedButton = "left" <;>
      by_cases hleft' : event'.clickedButton = "left"
    · rw [hleft, hleft']
    · simp [hleft, hleft'] at h
    · simp [hleft, hleft'] at h
    · rw [if_neg hleft, if_neg hleft'] at h
      exact Quoted.encode_injective (Option.some.inj h)
  · intro h
    rw [h]

/-- No two sets of keys have the same text. -/
theorem keysText_inj {m m' : Int}
    (h : keysText (ModifierKey.held m) = keysText (ModifierKey.held m')) :
    ModifierKey.held m = ModifierKey.held m' := by
  have htexts : (ModifierKey.all.sublists.map keysText).Nodup := by decide +kernel
  exact List.inj_on_of_nodup_map htexts (ModifierKey.held_mem_sublists m)
    (ModifierKey.held_mem_sublists m') h

theorem keysOption_eq_iff {event event' : Event} :
    event.keysOption = event'.keysOption ↔ ∀ key, key ∈ event.keys ↔ key ∈ event'.keys := by
  unfold keysOption keys
  rw [← ModifierKey.held_eq_iff]
  constructor
  · intro h
    by_cases hnone : ModifierKey.held (event.modifiers.getD 0) = [] <;>
      by_cases hnone' : ModifierKey.held (event'.modifiers.getD 0) = []
    · rw [hnone, hnone']
    · simp [hnone, hnone'] at h
    · simp [hnone, hnone'] at h
    · rw [if_neg hnone, if_neg hnone'] at h
      exact keysText_inj (Option.some.inj h)
  · intro h
    rw [h]

theorem positionOption_eq_iff {event event' : Event} :
    event.positionOption = event'.positionOption ↔ event.shownPosition = event'.shownPosition := by
  unfold positionOption shownPosition
  cases event.position with
  | none => cases event'.position <;> simp
  | some position =>
    cases event'.position with
    | none => simp
    | some position' => simp [Position.print_expression_eq_iff]

/-- The arguments of single clicks show exactly their buttons, keys and positions. -/
theorem singleOptions_eq_iff {event event' : Event} :
    event.singleOptions = event'.singleOptions ↔ event.SameOptions event' := by
  constructor
  · intro h
    have hbutton (value value' : Option Text) :
        ("button" : Text) ∉ (optionalArgument "modifiers" value ++
          optionalArgument "position" value').map Prod.fst := by
      rw [List.map_append, List.mem_append, not_or]
      exact ⟨not_mem_optionalArgument (by decide) _, not_mem_optionalArgument (by decide) _⟩
    have hkeys (value : Option Text) :
        ("modifiers" : Text) ∉ (optionalArgument "position" value).map Prod.fst :=
      not_mem_optionalArgument (by decide) _
    have hnone {keyword : Text} : keyword ∉ ([] : List (Text × Text)).map Prod.fst := by simp
    obtain ⟨hsame, h⟩ := optionalArgument_append_inj (hbutton _ _) (hbutton _ _) h
    obtain ⟨hsame', h⟩ := optionalArgument_append_inj (hkeys _) (hkeys _) h
    obtain ⟨hsame'', -⟩ := optionalArgument_append_inj hnone hnone (congrArg (· ++ []) h)
    exact ⟨buttonOption_eq_iff.1 hsame, keysOption_eq_iff.1 hsame', positionOption_eq_iff.1 hsame''⟩
  · rintro ⟨hbutton, hkeys, hposition⟩
    rw [singleOptions, buttonOption_eq_iff.2 hbutton, keysOption_eq_iff.2 hkeys,
      positionOption_eq_iff.2 hposition, singleOptions]

/-! ## The call of a click -/

/-- The method that a click calls. -/
def clickMethod (event : Event) : Text := if event.times = 2 then "dblclick" else "click"

/-- The arguments that a click calls it with. -/
def clickArguments (event : Event) : List (Text × Expression) :=
  if event.times = 2 then []
  else if 2 < event.times then [("click_count", .number (.int event.times))]
  else event.clickKeywords

theorem times_eq (event : Event) : event.times = max 1 event.clicks := by
  unfold times clicks
  split <;> next hcount =>
    rw [hcount]
    rfl

theorem click_expression (event : Event) (target : Expression) :
    Interaction.click.expression event target =
      target.invokeWith event.clickMethod event.clickArguments := by
  have htimes := event.times_eq
  unfold Interaction.expression clickMethod clickArguments
  by_cases htwo : event.clicks = 2
  · have htwice : event.times = 2 := by omega
    simp [htwo, htwice, Expression.invoke, Expression.invokeWith]
  · have hnot : event.times ≠ 2 := by omega
    by_cases hmore : event.clicks > 2
    · have hsame : event.times = event.clicks := by omega
      simp [hmore, hsame, htwo]
    · have hone : ¬ 2 < event.times := by omega
      simp [htwo, hnot, hmore, hone]

/-- A click once, twice, or more often, with the arguments of its call. -/
theorem clickArguments_cases (event : Event) :
    (event.times = 1 ∧ event.clickMethod = "click" ∧
      Expression.printed event.clickArguments = event.singleOptions) ∨
    (event.times = 2 ∧ event.clickMethod = "dblclick" ∧
      Expression.printed event.clickArguments = []) ∨
    2 < event.times ∧ event.clickMethod = "click" ∧
      Expression.printed event.clickArguments =
        [(("click_count" : Text), Text.ofInt event.times)] := by
  have hpositive : 1 ≤ event.times := Int.le_max_left ..
  unfold clickMethod clickArguments
  by_cases htwo : event.times = 2
  · exact .inr (.inl ⟨htwo, if_pos htwo, by rw [if_pos htwo]; rfl⟩)
  by_cases hmore : 2 < event.times
  · exact .inr (.inr ⟨hmore, if_neg htwo, by rw [if_neg htwo, if_pos hmore]; rfl⟩)
  · refine .inl ⟨by omega, if_neg htwo, ?_⟩
    rw [if_neg htwo, if_neg hmore, printed_clickKeywords]

/-- The arguments of a single click are none with the number of clicks. -/
theorem singleOptions_ne (event : Event) (count : Text) :
    event.singleOptions ≠ [(("click_count" : Text), count)] := by
  intro h
  have hmem : ("click_count" : Text) ∈ event.singleOptions.map Prod.fst := by simp [h]
  rw [singleOptions, List.map_append, List.map_append, List.mem_append, List.mem_append] at hmem
  rcases hmem with hmem | hmem | hmem <;>
    exact not_mem_optionalArgument (by decide) _ hmem

/-- The call of a click shows the number of clicks, and the options of a single one. -/
theorem clickArguments_eq_iff {event event' : Event} :
    (event.clickMethod = event'.clickMethod ∧
      Expression.printed event.clickArguments = Expression.printed event'.clickArguments) ↔
    event.times = event'.times ∧ (event.times = 1 → event.SameOptions event') := by
  have hmethods : ("click" : Text) ≠ "dblclick" := by decide
  rcases event.clickArguments_cases with ⟨ht, hm, ha⟩ | ⟨ht, hm, ha⟩ | ⟨ht, hm, ha⟩ <;>
    rcases event'.clickArguments_cases with ⟨ht', hm', ha'⟩ | ⟨ht', hm', ha'⟩ | ⟨ht', hm', ha'⟩ <;>
      rw [hm, hm', ha, ha']
  case inl.inl => simp [ht, ht', singleOptions_eq_iff]
  case inl.inr.inr =>
    refine iff_of_false (fun h => singleOptions_ne _ _ h.2) fun h => ?_
    omega
  case inr.inr.inl =>
    refine iff_of_false (fun h => singleOptions_ne _ _ h.2.symm) fun h => ?_
    omega
  case inr.inl.inr.inl => simp [ht, ht']
  case inr.inr.inr.inr =>
    constructor
    · intro h
      simp only [List.cons.injEq, Prod.mk.injEq] at h
      exact ⟨Text.ofInt_inj h.2.1.2, fun hone => by omega⟩
    · intro h
      rw [h.1]
      exact ⟨rfl, rfl⟩
  all_goals
    refine iff_of_false (fun h => ?_) fun h => by omega
    first | exact hmethods h.1 | exact hmethods h.1.symm

/-! ## Two clicks -/

theorem isOption_keysText (m : Int) : (keysText (ModifierKey.held m)).IsOption := by
  have hall : ∀ keys ∈ ModifierKey.all.sublists, CodePoint.char ']' ∉ Text.joined ", "
      (Expression.printItems (keys.map fun key => .text key.name)) := by decide +kernel
  exact .enclosed (by decide) (hall _ (ModifierKey.held_mem_sublists m))

/-- The arguments of a click are names with values of arguments. -/
theorem areOptions_click (event : Event) : ∀ argument ∈ Expression.printed event.clickArguments,
    argument.1.IsName ∧ argument.2.IsOption := by
  have hoptional {keyword : Text} {value : Option Text} (hk : keyword.IsName)
      (hv : ∀ v ∈ value, v.IsOption) : ∀ argument ∈ optionalArgument keyword value,
        argument.1.IsName ∧ argument.2.IsOption := by
    intro argument hmem
    obtain ⟨v, hvalue, rfl⟩ := List.mem_map.1 hmem
    exact ⟨hk, hv v (Option.mem_toList.1 hvalue)⟩
  have hbutton : ∀ v ∈ event.buttonOption, v.IsOption := by
    intro v hv
    unfold buttonOption at hv
    split at hv <;> cases hv
    exact .value (.literal _)
  have hkeys : ∀ v ∈ event.keysOption, v.IsOption := by
    intro v hv
    unfold keysOption at hv
    split at hv <;> cases hv
    exact isOption_keysText _
  have hposition : ∀ v ∈ event.positionOption, v.IsOption := by
    intro v hv
    obtain ⟨position, -, rfl⟩ := Option.map_eq_some_iff.1 hv
    exact position.isOption_print
  rcases event.clickArguments_cases with ⟨-, -, ha⟩ | ⟨-, -, ha⟩ | ⟨-, -, ha⟩ <;> rw [ha]
  · exact List.forall_mem_append.2 ⟨hoptional (by decide) hbutton, List.forall_mem_append.2
      ⟨hoptional (by decide) hkeys, hoptional (by decide) hposition⟩⟩
  · exact List.forall_mem_nil _
  · have hname : Text.IsName "click_count" := by decide
    exact List.forall_mem_singleton.2 ⟨hname, .value (.numeric (Text.isNumeric_ofInt _))⟩

/-- The code of a click, without its signals. -/
theorem actionSnippet_click {event : Event} {locator : Locator} {own : Snippet}
    (hname : event.name = "click") (hl : event.HasLocator locator)
    (h : event.actionSnippet.result = .ok own) :
    own.lines = [((locator.expression event.root).invokeWith event.clickMethod
      event.clickArguments).print] := by
  have haction : Action.ofName? event.name = some (.interaction .click) := by
    rw [hname]
    decide
  rcases actionSnippet_eq_ok_iff.1 h with ⟨_, hother, -⟩ | ⟨_, _, hfound, hl', rfl⟩ |
    ⟨_, _, hother, -⟩
  · cases haction.symm.trans hother
  · cases haction.symm.trans hfound
    obtain ⟨log, hl⟩ := hl
    obtain ⟨log', hl'⟩ := hl'
    cases hl.symm.trans hl'
    exact congrArg (fun e => [Expression.print e]) (click_expression event _)
  · cases haction.symm.trans hother

/-- Two clicks on the same target have the same lines exactly if they have the same signals and
click as often, and, if that is once, with the same button, the same keys and at the same
position. -/
theorem click_lines_eq_iff {event event' : Event} {locator : Locator} {snippet snippet' : Snippet}
    (hname : event.name = "click") (hname' : event'.name = "click")
    (hpage : event.page = event'.page) (hpath : event.framePath = event'.framePath)
    (hl : event.HasLocator locator) (hl' : event'.HasLocator locator)
    (h : event.snippet.result = .ok snippet) (h' : event'.snippet.result = .ok snippet') :
    snippet.lines = snippet'.lines ↔
      event.signals.map Signal.name = event'.signals.map Signal.name ∧
        event.times = event'.times ∧ (event.times = 1 → event.SameOptions event') := by
  have hmethod (event : Event) : event.clickMethod.IsName := by
    unfold clickMethod
    split <;> decide
  have hroot : event.root = event'.root := by rw [root, root, hpage, hpath]
  obtain ⟨own, -, hown, -⟩ := snippet_eq_ok_iff.1 h
  obtain ⟨own', -, hown', -⟩ := snippet_eq_ok_iff.1 h'
  rw [lines_eq_iff hpage hown hown' h h', actionSnippet_click hname hl hown,
    actionSnippet_click hname' hl' hown', hroot, List.singleton_inj,
    Expression.print_invokeWith_eq_iff (hmethod _) (hmethod _) event.areOptions_click
      event'.areOptions_click, clickArguments_eq_iff]

/-- A click on the same target, with a number of clicks and a button. -/
def clicking (count : Int) (button : Option Text) : Event :=
  { Event.bare "click" with selector := some "a", clickCount := some count, button := button }

theorem hasLocator_clicking (count : Int) (button : Option Text) :
    (clicking count button).HasLocator [.selector "a"] := ⟨[], rfl⟩

/-- A negative number and an empty button are those of a click with the left button. -/
theorem click_lines_eq_iff_once : ∃ snippet snippet',
    (clicking (-1) (some [])).snippet.result = .ok snippet ∧
      (clicking 1 (some "left")).snippet.result = .ok snippet' ∧
      snippet.lines = snippet'.lines := by
  have hsnippet : (clicking (-1) (some [])).snippet.result =
      .ok ⟨["pg.locator(\"a\").click()"], []⟩ := toOption_eq_some_iff.1 (by decide +kernel)
  have hsnippet' : (clicking 1 (some "left")).snippet.result =
      .ok ⟨["pg.locator(\"a\").click()"], []⟩ := toOption_eq_some_iff.1 (by decide +kernel)
  have hoptions : (clicking (-1) (some [])).SameOptions (clicking 1 (some "left")) :=
    ⟨by decide, fun _ => Iff.rfl, rfl⟩
  have hpage : (clicking (-1) (some [])).page = (clicking 1 (some "left")).page := rfl
  have hpath : (clicking (-1) (some [])).framePath = (clicking 1 (some "left")).framePath := rfl
  have hiff := click_lines_eq_iff rfl rfl hpage hpath (hasLocator_clicking _ _)
    (hasLocator_clicking _ _) hsnippet hsnippet'
  exact ⟨_, _, hsnippet, hsnippet', hiff.2 ⟨rfl, by decide, fun _ => hoptions⟩⟩

/-- The button of a double click is lost. -/
theorem click_doubleRight :
    let line : Text := "pg.locator(\"a\").dblclick()"
    (clicking 2 (some "right")).snippet.result = .ok ⟨[line], []⟩ ∧
      (clicking 2 none).snippet.result = .ok ⟨[line], []⟩ ∧
      (clicking 2 (some "right")).clickedButton ≠ (clicking 2 none).clickedButton := by
  intro line
  exact ⟨toOption_eq_some_iff.1 (by decide +kernel), toOption_eq_some_iff.1 (by decide +kernel),
    by decide⟩

end Event

end Playback
