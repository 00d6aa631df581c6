import Playback.Proofs.Code.Names
import Playback.Proofs.Event.Words
import Playback.Proofs.Layout.Snippet

/-!
# The names of snippets

* `Link.numbers`, `Interaction.numbers`, `Event.numbers`: the numbers in the code of an event.
* `Locator.occurrences_expression`, `Interaction.occurrences_expression` and the like: recorded
  texts bring in no names, and recorded numbers only those of numbers that are not finite.
* `Event.Uses`: the names that an event uses: its page, the function of assertions, and the names of
  its numbers.
* `Snippet.HasNames`: what lines use, and that they bind nothing but the results of signals.
  `Event.hasNames_snippet`: the lines of an event use what the event uses.
-/

namespace Playback

/-! ## Numbers in the code of an event -/

/-- The number that the value of a state may be. -/
def StateValue.numbers : StateValue → List Number
  | .number value => [value]
  | _ => []

/-- The numbers of a link. -/
def Link.numbers : Link → List Number
  | .role _ _ _ states => states.flatMap fun (_, value) => value.numbers
  | .nth position => [.int position]
  | _ => []

/-- The numbers of an event's position. -/
def Event.positionNumbers (event : Event) : List Number :=
  event.position.toList.flatMap fun position => [position.x, position.y]

/-- The numbers in the code of what happens to a target. -/
def Interaction.numbers (event : Event) : Interaction → List Number
  | .click =>
    if event.clicks = 2 then []
    else if event.clicks > 2 then [.int event.clicks]
    else event.positionNumbers
  | .hover => event.positionNumbers
  | _ => []

/-- The numbers in the locator of an event's target. -/
def Event.targetNumbers (event : Event) : List Number :=
  match Locator.ofTarget event.selector event.locator with
  | .ok (locator, _) => locator.flatMap Link.numbers
  | .error _ => []

/-- The numbers in the code of an event, those of its target in front. -/
def Event.numbers (event : Event) : List Number :=
  match Action.ofName? event.name with
  | some (.interaction action) => event.targetNumbers ++ action.numbers event
  | some (.assertion _) => event.targetNumbers
  | _ => []

/-- The names that numbers are written as. -/
def Number.names (numbers : List Number) : List Text := numbers.filterMap name?

@[simp] theorem Number.names_append (front back : List Number) :
    names (front ++ back) = names front ++ names back :=
  List.filterMap_append

theorem Number.occurrences_eq (n : Number) : n.occurrences = (names [n]).map .use := by
  rw [occurrences, names, List.filterMap_cons]
  cases n.name? <;> rfl

/-! ## Occurrences in the code of an action -/

namespace Expression

variable {target : Expression} {method : Text} {arguments : List Expression}
  {keywords : List (Text × Expression)}

@[simp] theorem occurrences_call : (call target arguments keywords).occurrences =
    target.occurrences ++ (arguments.flatMap occurrences ++
      keywords.flatMap fun keyword => keyword.2.occurrences) := by
  rw [occurrences, occurrencesOfItems_eq, occurrencesOfEntries_eq, List.flatten_append,
    List.flatMap_def, List.flatMap_def]

@[simp] theorem occurrences_name (identifier : Text) :
    (name identifier).occurrences = [.use identifier] := by
  rw [occurrences]

@[simp] theorem occurrences_text (value : Text) : (text value).occurrences = [] := by
  rw [occurrences]

@[simp] theorem occurrences_bool (value : Bool) : (bool value).occurrences = [] := by
  rw [occurrences]

@[simp] theorem occurrences_number (n : Number) : (number n).occurrences = n.occurrences := by
  rw [occurrences]

@[simp] theorem occurrences_member : (member target method).occurrences = target.occurrences := by
  rw [occurrences]

@[simp] theorem occurrences_callback (parameter : Text) (body : Expression) :
    (callback parameter body).occurrences = .parameter parameter :: body.occurrences := by
  rw [occurrences]

@[simp] theorem occurrences_list (items : List Expression) :
    (list items).occurrences = items.flatMap occurrences := by
  rw [occurrences, occurrencesOfItems_eq, List.flatMap_def]

@[simp] theorem occurrences_object (entries : List (Text × Expression)) :
    (object entries).occurrences = entries.flatMap fun entry => entry.2.occurrences := by
  rw [occurrences, occurrencesOfEntries_eq, List.flatMap_def]

theorem occurrences_inFrames (root : Expression) (path : List Text) :
    (root.inFrames path).occurrences = root.occurrences := by
  unfold inFrames
  induction path generalizing root with
  | nil => rfl
  | cons selector path ih =>
    rw [List.foldl_cons, ih]
    simp [invoke]

end Expression

section Actions

open Expression

variable {target root : Expression}

theorem StateValue.occurrences_expression (value : StateValue) :
    value.expression.occurrences = (Number.names value.numbers).map .use := by
  cases value with
  | number n => rw [expression, occurrences_number, Number.occurrences_eq, numbers]
  | bool | text => simp [expression, numbers, Number.names]

/-- A link brings in the names of its numbers, and no other. -/
theorem Link.occurrences_apply (target : Expression) (link : Link) :
    (link.apply target).occurrences =
      target.occurrences ++ (Number.names link.numbers).map .use := by
  have hexact (exact : Bool) :
      (exactKeyword exact).flatMap (fun keyword => keyword.2.occurrences) = [] := by
    cases exact <;> simp [exactKeyword]
  cases link with
  | role role name exact states =>
    have hname : (name.toList.map fun n => (("name" : Text), Expression.text n)).flatMap
        (fun keyword => keyword.2.occurrences) = [] := by
      cases name <;> simp
    have hstates : (states.map fun state => (state.1.keyword, state.2.expression)).flatMap
        (fun keyword => keyword.2.occurrences) =
          (Number.names (states.flatMap fun state => state.2.numbers)).map .use := by
      simp only [List.flatMap_map, StateValue.occurrences_expression, Number.names,
        List.filterMap_flatMap, List.map_flatMap]
    simp only [apply, Link.call, occurrences_call, occurrences_member, List.flatMap_append, hname,
      hexact, List.nil_append, numbers]
    exact congrArg (target.occurrences ++ ·) hstates
  | byText kind content exact =>
    simp [apply, Link.call, hexact, numbers, Number.names]
  | nth position => simp [apply, numbers, Number.occurrences_eq]
  | testId | selector | first | last => simp [apply, Link.call, numbers, Number.names]

theorem Locator.occurrences_expression (root : Expression) (locator : Locator) :
    (locator.expression root).occurrences =
      root.occurrences ++ (Number.names (locator.flatMap Link.numbers)).map .use := by
  unfold Locator.expression
  induction locator generalizing root with
  | nil => simp [Number.names]
  | cons link locator ih =>
    rw [List.foldl_cons, ih, link.occurrences_apply, List.flatMap_cons, Number.names_append,
      List.map_append, List.append_assoc]

theorem Event.occurrences_root (event : Event) : event.root.occurrences = [.use event.page] := by
  rw [root, occurrences_inFrames, occurrences_name]

theorem Values.occurrences_expression (values : Values) : values.expression.occurrences = [] := by
  unfold Values.expression
  split <;> simp

theorem Event.occurrences_positionKeyword (event : Event) :
    event.positionKeyword.flatMap (fun keyword => keyword.2.occurrences) =
      (Number.names event.positionNumbers).map .use := by
  unfold positionKeyword positionNumbers
  cases event.position with
  | none => rfl
  | some position =>
    have hpair : Number.names [position.x, position.y] =
        Number.names [position.x] ++ Number.names [position.y] := Number.names_append [_] [_]
    simp [Position.expression, Number.occurrences_eq, hpair]

theorem Event.occurrences_clickKeywords (event : Event) :
    event.clickKeywords.flatMap (fun keyword => keyword.2.occurrences) =
      (Number.names event.positionNumbers).map .use := by
  unfold clickKeywords
  rw [List.flatMap_append, event.occurrences_positionKeyword, List.flatMap_append]
  refine congrArg (· ++ _) (List.append_eq_nil_iff.2 ⟨?_, ?_⟩)
  · split
    · split <;> simp
    · rfl
  · split <;> simp

/-- What happens to a target brings in the names of its numbers, and no other. -/
theorem Interaction.occurrences_expression (action : Interaction) (event : Event)
    (target : Expression) : (action.expression event target).occurrences =
      target.occurrences ++ (Number.names (action.numbers event)).map .use := by
  cases action with
  | click =>
    unfold expression numbers
    dsimp only
    split
    · simp [invoke, Number.names]
    · split
      · simp [invokeWith, Number.occurrences_eq]
      · simp [invokeWith, event.occurrences_clickKeywords]
  | hover => simp [expression, invokeWith, numbers, event.occurrences_positionKeyword]
  | select =>
    cases hoptions : event.options <;>
      simp [expression, invoke, numbers, Number.names, hoptions, Values.occurrences_expression]
  | setInputFiles =>
    cases hfiles : event.files <;>
      simp [expression, invoke, numbers, Number.names, hfiles, Values.occurrences_expression]
  | fill | press | check | uncheck =>
    simp [expression, invoke, numbers, Number.names, textOrEmpty]

/-- What is asserted about a target brings in the function of assertions alone. -/
theorem Assertion.occurrences_expression (action : Assertion) (event : Event)
    (target : Expression) : (action.expression event target).occurrences =
      .use assertionImport.name :: target.occurrences := by
  have hinvoke (method : Text) (arguments : List Expression)
      (ha : arguments.flatMap Expression.occurrences = []) :
      ((Expression.call (.name assertionImport.name) [target] []).invoke method
        arguments).occurrences = .use assertionImport.name :: target.occurrences := by
    simp [invoke, ha]
  cases action with
  | value =>
    unfold expression
    dsimp only
    split
    · split
      · exact hinvoke _ _ rfl
      · exact hinvoke _ _ (by simp)
    · exact hinvoke _ _ rfl
  | visible | checked => exact hinvoke _ _ rfl
  | text | snapshot => exact hinvoke _ _ (by simp [textOrEmpty])

end Actions

/-! ## Names that are used -/

/-- The names that the signals of an event bind. -/
def resultNames : List Text := ["popup_info", "popup_pg", "download_info", "download"]

theorem pageName_cases (pageAlias : Text) :
    (pageName pageAlias).isIdentifier ∧ pageName pageAlias ∉ resultNames := by
  unfold pageName
  split
  · decide
  · have hdigit : Text.beginsWithDigit ("pg_" ++ pageAlias.map CodePoint.inName) = false := rfl
    refine ⟨?_, by simp [resultNames, Text.ofString]⟩
    rw [Text.isIdentifier, hdigit]
    simp [keywords, Text.ofString]

/-- The names of numbers: those of what is no number, and of what has no bound. -/
theorem Number.eq_of_mem_names {numbers : List Number} {name : Text} (h : name ∈ names numbers) :
    name = "nan" ∨ name = "inf" := by
  obtain ⟨n, -, hn⟩ := List.mem_filterMap.1 h
  rcases n with value | (_ | _ | _) <;> cases hn
  · exact .inl rfl
  · exact .inr rfl

theorem Number.of_mem_names {numbers : List Number} {name : Text} (h : name ∈ names numbers) :
    name.isIdentifier ∧ name ∉ resultNames := by
  rcases eq_of_mem_names h with rfl | rfl <;> decide

theorem Number.names_eq_nil_iff {numbers : List Number} :
    names numbers = [] ↔ ∀ n ∈ numbers, n.isFinite := by
  simp only [names, List.filterMap_eq_nil_iff, name?_eq_none_iff]

namespace Snippet

variable {snippet : Snippet} {used used' : Text → Prop}

/-- The lines use the names of which `used` is true, and bind nothing but what signals do. -/
structure HasNames (snippet : Snippet) (used : Text → Prop) : Prop where
  free : ∀ name, name ∈ Text.freeNamesOf snippet.lines ↔ used name
  bound : Text.bindingsOf snippet.lines ⊆ resultNames

theorem HasNames.congr (h : snippet.HasNames used) (hiff : ∀ name, used name ↔ used' name) :
    snippet.HasNames used' :=
  ⟨fun name => (h.free name).trans (hiff name), h.bound⟩

theorem hasNames_nil (imports : List Import) :
    (ofStatements [] imports).HasNames fun _ => False :=
  ⟨fun _ => List.mem_nil_iff _, List.nil_subset _⟩

/-- A comment uses and binds nothing. -/
theorem HasNames.comment_cons {statements : List Statement} {imports : List Import}
    (h : (ofStatements statements imports).HasNames used) (text : Text) :
    (ofStatements (.comment text :: statements) imports).HasNames used := by
  have hline := Statement.occurrences_line_comment text
  constructor
  · intro name
    rw [ofStatements, List.map_cons, Text.mem_freeNamesOf_cons, hline, ← h.free name]
    simp [Occurrence.freeNames, Occurrence.bindings, ofStatements]
  · rw [ofStatements, List.map_cons, Text.bindingsOf, List.flatMap_cons, hline]
    exact h.bound

/-- An expression that binds nothing uses its names. -/
theorem hasNames_expression {e : Expression} {names : List Text}
    (hw : ∀ word ∈ e.words, word.IsWord) (hfrom : ("from" : Text) ∉ e.words)
    (h : e.occurrences = names.map .use) (hn : ∀ name ∈ names, name.isIdentifier)
    (imports : List Import) :
    (ofStatements [.expression e] imports).HasNames (· ∈ names) := by
  have hline := Statement.occurrences_line_expression hw hfrom h (List.forall_mem_map.2 hn)
  constructor
  · intro name
    rw [ofStatements, List.map_singleton, Text.mem_freeNamesOf_cons, hline,
      Occurrence.freeNames_map_use]
    simp [Text.freeNamesOf]
  · rw [ofStatements, List.map_singleton, Text.bindingsOf, List.flatMap_singleton, hline,
      Occurrence.bindings_map_use]
    exact List.nil_subset _

theorem hasNames_ordinary {e : Expression} {names : List Text} (he : e.IsOrdinary)
    (h : e.occurrences = names.map .use) (hn : ∀ name ∈ names, name.isIdentifier) :
    (ofStatements [.expression e] []).HasNames (· ∈ names) :=
  hasNames_expression (fun word hword => (he word hword).isWord)
    (fun hword => absurd (he _ hword) (by decide)) h hn []

end Snippet

namespace Event

open Snippet

variable {event : Event} {own snippet : Snippet}

/-- The code of the event's action uses the name: that of its page, if it is more than a comment,
that of the function of assertions, if the action is one, or that of a number. -/
def ActionUses (event : Event) (name : Text) : Prop :=
  ¬ event.OpensBlankPage ∧ name = event.page ∨
    event.name ∈ assertionNames ∧ name = assertionImport.name ∨ name ∈ Number.names event.numbers

/-- The event's page is used: by its action, or by a signal. -/
def UsesPage (event : Event) : Prop := event.signals ≠ [] ∨ ¬ event.OpensBlankPage

/-- The code of the event uses the name: that of its page, of the function of assertions, or of a
number. -/
def Uses (event : Event) (name : Text) : Prop :=
  event.UsesPage ∧ name = event.page ∨
    event.name ∈ assertionNames ∧ name = assertionImport.name ∨ name ∈ Number.names event.numbers

theorem ActionUses.not_mem_resultNames {name : Text} (h : event.ActionUses name) :
    name ∉ resultNames := by
  rcases h with ⟨-, rfl⟩ | ⟨-, rfl⟩ | h
  · exact (pageName_cases _).2
  · decide
  · exact (Number.of_mem_names h).2

theorem Uses.not_mem_resultNames {name : Text} (h : event.Uses name) : name ∉ resultNames := by
  rcases h with ⟨-, rfl⟩ | h
  · exact (pageName_cases _).2
  · exact ActionUses.not_mem_resultNames (.inr h)

/-- The names of the locator of an event's target are its page and the names of its numbers. -/
theorem HasLocator.occurrences_expression {locator : Locator} (h : event.HasLocator locator) :
    (locator.expression event.root).occurrences =
      (event.page :: Number.names event.targetNumbers).map .use := by
  obtain ⟨log, htarget⟩ := h
  have hnumbers : event.targetNumbers = locator.flatMap Link.numbers := by
    rw [targetNumbers, htarget]
  rw [locator.occurrences_expression, event.occurrences_root, hnumbers]
  rfl

theorem mem_assertionNames_iff {action : Action} (h : Action.ofName? event.name = some action) :
    event.name ∈ assertionNames ↔ ∃ assertion, action = .assertion assertion := by
  rw [← Action.exists_assertion_iff, h]
  simp

theorem isIdentifier_page (event : Event) : event.page.isIdentifier := (pageName_cases _).1

theorem hasNames_pageCall {method : Text} (hm : method.IsOrdinary) (values : List Text) :
    (ofStatements [.expression ((Expression.name event.page).invoke method (values.map .text))]
      []).HasNames (· ∈ [event.page]) := by
  refine hasNames_ordinary ?_ ?_ (List.forall_mem_singleton.2 event.isIdentifier_page)
  · simp [event.isOrdinary_page, hm]
  · have hnone : (values.map Expression.text).flatMap Expression.occurrences = [] := by simp
    rw [Expression.invoke, Expression.occurrences_call, hnone, Expression.occurrences_member,
      Expression.occurrences_name]
    rfl

theorem hasNames_pageAction {action : PageAction}
    (h : Action.ofName? event.name = some (.page action)) :
    (ofStatements (action.statements event) []).HasNames event.ActionUses := by
  have hnot : event.name ∉ assertionNames := by simp [mem_assertionNames_iff h]
  have hnumbers : event.numbers = [] := by rw [numbers, h]
  have huses (name : Text) :
      event.ActionUses name ↔ ¬ event.OpensBlankPage ∧ name = event.page := by
    simp [ActionUses, hnot, hnumbers, Number.names]
  cases action with
  | openPage =>
    have hopen : event.name = ("openPage" : Text) := by
      simpa [Action.names] using Action.mem_names h
    rcases statements_openPage hopen with ⟨hblank, hs⟩ | ⟨hblank, url, hs⟩
    · rw [hs]
      exact ((hasNames_nil []).comment_cons _).congr fun name => by simp [huses, hblank]
    · rw [hs]
      refine ((hasNames_pageCall (by decide) [url]).comment_cons _).congr fun name => ?_
      simp [huses, hblank]
  | closePage =>
    refine (hasNames_pageCall (by decide) []).congr fun name => ?_
    simp [huses, not_opensBlankPage h (by decide)]
  | navigate =>
    refine (hasNames_pageCall (by decide) [event.url.getD []]).congr fun name => ?_
    simp [huses, not_opensBlankPage h (by decide)]

theorem hasNames_interaction {action : Interaction} {locator : Locator}
    (h : Action.ofName? event.name = some (.interaction action)) (hl : event.HasLocator locator) :
    (ofStatements [.expression (action.expression event (locator.expression event.root))]
      []).HasNames event.ActionUses := by
  have hnumbers : event.numbers = event.targetNumbers ++ action.numbers event := by
    rw [numbers, h]
  have hoccurrences : (action.expression event (locator.expression event.root)).occurrences =
      (event.page :: Number.names event.numbers).map .use := by
    rw [action.occurrences_expression, hl.occurrences_expression, hnumbers, Number.names_append,
      List.map_cons, List.map_cons, List.cons_append, List.map_append]
  have hordinary := action.isOrdinary_expression
    (locator.isOrdinary_expression event.isOrdinary_root) event
  have hnames : ∀ name ∈ event.page :: Number.names event.numbers, name.isIdentifier :=
    List.forall_mem_cons.2 ⟨event.isIdentifier_page, fun _ hmem => (Number.of_mem_names hmem).1⟩
  refine (hasNames_ordinary hordinary hoccurrences hnames).congr fun name => ?_
  simp [ActionUses, not_opensBlankPage h (by simp), mem_assertionNames_iff h]

theorem hasNames_assertion {action : Assertion} {locator : Locator}
    (h : Action.ofName? event.name = some (.assertion action)) (hl : event.HasLocator locator) :
    (ofStatements [.expression (action.expression event (locator.expression event.root))]
      [assertionImport]).HasNames event.ActionUses := by
  have hnumbers : event.numbers = event.targetNumbers := by rw [numbers, h]
  have hoccurrences : (action.expression event (locator.expression event.root)).occurrences =
      (assertionImport.name :: event.page :: Number.names event.numbers).map .use := by
    rw [action.occurrences_expression, hl.occurrences_expression, hnumbers]
    rfl
  have hnames : ∀ name ∈ assertionImport.name :: event.page :: Number.names event.numbers,
      name.isIdentifier :=
    List.forall_mem_cons.2 ⟨by decide, List.forall_mem_cons.2
      ⟨event.isIdentifier_page, fun _ hmem => (Number.of_mem_names hmem).1⟩⟩
  -- the function of assertions is a word like any other, and not the one that imports begin with
  obtain ⟨rest, hwords, hrest⟩ := action.words_expression
    (locator.isOrdinary_expression event.isOrdinary_root) event
  have hwhole : ∀ word ∈ assertionImport.name :: rest, Text.IsWord word :=
    List.forall_mem_cons.2 ⟨by decide, fun word hword => (hrest word hword).isWord⟩
  have hfrom : ("from" : Text) ∉ assertionImport.name :: rest :=
    List.not_mem_cons_of_ne_of_not_mem (by decide) fun hmem => absurd (hrest _ hmem) (by decide)
  refine (hasNames_expression (hwords ▸ hwhole) (hwords ▸ hfrom) hoccurrences hnames _).congr
    fun name => ?_
  have hasserts : event.name ∈ assertionNames := (mem_assertionNames_iff h).2 ⟨action, rfl⟩
  simp only [ActionUses, not_opensBlankPage h nofun, hasserts, List.mem_cons, not_false_eq_true,
    true_and]
  exact or_left_comm

/-- The code of an action uses what the action uses. -/
theorem hasNames_actionSnippet (h : event.actionSnippet.result = .ok own) :
    own.HasNames event.ActionUses := by
  rcases actionSnippet_eq_ok_iff.1 h with ⟨action, hname, rfl⟩ | ⟨action, locator, hname, hl, rfl⟩ |
    ⟨action, locator, hname, hl, rfl⟩
  · exact hasNames_pageAction hname
  · exact hasNames_interaction hname hl
  · exact hasNames_assertion hname hl

theorem occurrences_dialogHandler (event : Event) :
    (dialogHandler event.page).line.occurrences =
      [.use event.page, .parameter "dialog", .use "dialog"] := by
  have hordinary : ((Expression.name event.page).invoke "on" [.text "dialog",
      .callback "dialog" ((Expression.name "dialog").invoke "dismiss" [])]).IsOrdinary := by
    have hon : Text.IsOrdinary "on" := by decide
    have hdialog : Text.IsOrdinary "dialog" := by decide
    have hdismiss : Text.IsOrdinary "dismiss" := by decide
    simp [event.isOrdinary_page, hon, hdialog, hdismiss]
  refine Statement.occurrences_line_expression (fun word hword => (hordinary word hword).isWord)
    (fun hword => absurd (hordinary _ hword) (by decide)) (by simp [Expression.invoke]) ?_
  exact List.forall_mem_cons.2 ⟨event.isIdentifier_page, by decide⟩

theorem of_mem_resultNames {name : Text} (h : name ∈ resultNames) :
    name.IsWord ∧ name.isIdentifier := by
  have hall : ∀ name ∈ resultNames, Text.IsWord name ∧ name.isIdentifier := by decide
  exact hall name h

theorem occurrences_scopeLine (event : Event) {method info : Text} (hm : method.IsOrdinary)
    (hi : info ∈ resultNames) :
    (Statement.scope ((Expression.name event.page).invoke method []) info).line.occurrences =
      [.use event.page, .binding info] := by
  have hordinary : ((Expression.name event.page).invoke method []).IsOrdinary := by
    simp [event.isOrdinary_page, hm]
  have hresource : ((Expression.name event.page).invoke method []).occurrences =
      [.use event.page] := by simp [Expression.invoke]
  exact Statement.occurrences_line_scope (fun word hword => (hordinary word hword).isWord)
    hresource (List.forall_mem_singleton.2 event.isIdentifier_page) (of_mem_resultNames hi)

theorem occurrences_resultLine {info result : Text} (hi : info ∈ resultNames)
    (hr : result ∈ resultNames) :
    (Statement.assignment result (.member (.name info) "value")).line.occurrences =
      [.binding result, .use info] := by
  obtain ⟨hinfo, hidentifier⟩ := of_mem_resultNames hi
  have hwords : ∀ word ∈ ((Expression.name info).member "value").words, Text.IsWord word := by
    have hmember : Text.IsWord "value" := by decide
    simp [Expression.words, hinfo, hmember]
  exact Statement.occurrences_line_assignment (of_mem_resultNames hr) hwords (by simp)
    (List.forall_mem_singleton.2 hidentifier)

/-- A block binds what its lines do not use, and then its result. -/
theorem hasNames_inScope {used : Text → Prop} (h : snippet.HasNames used)
    (hused : ∀ name, used name → name ∉ resultNames) {method info result : Text} (comment : Text)
    (hm : method.IsOrdinary) (hi : info ∈ resultNames) (hr : result ∈ resultNames) :
    (snippet.inScope event.page method info result comment).HasNames
      fun name => name = event.page ∨ used name := by
  have hheader := event.occurrences_scopeLine hm hi
  have hbinding := occurrences_resultLine hi hr
  have hcomment := Statement.occurrences_line_comment comment
  have hinner : snippet.nested = snippet.lines.map (Text.indented (Statement.indentationOf 1)) :=
    rfl
  have hsame := Text.occurrences_indented 1
  constructor
  · intro name
    have hnot : used name → name ≠ info := fun hname hsame => hused name hname (hsame ▸ hi)
    rw [Snippet.inScope, List.cons_append, Text.mem_freeNamesOf_cons, Text.mem_freeNamesOf_append,
      Text.mem_freeNamesOf_cons, Text.mem_freeNamesOf_cons, hheader, hbinding, hcomment, hinner,
      Text.freeNamesOf_map hsame, Text.bindingsOf_map hsame, h.free name]
    simp only [Occurrence.freeNames, Occurrence.bindings, Occurrence.binding?, Text.freeNamesOf,
      List.filterMap, List.mem_cons, List.not_mem_nil, or_false, false_and]
    tauto
  · -- the header binds in front of the lines inside, and the result is bound behind them
    have hbound : Text.bindingsOf (snippet.inScope event.page method info result comment).lines =
        info :: (Text.bindingsOf snippet.lines ++ [result]) := by
      have hback : Text.bindingsOf
          [(Statement.assignment result (.member (.name info) "value")).line,
            (Statement.comment comment).line] = [result] := by
        rw [Text.bindingsOf, List.flatMap_cons, List.flatMap_singleton, hbinding, hcomment]
        rfl
      have hfront : Text.bindingsOf
          [(Statement.scope ((Expression.name event.page).invoke method []) info).line] =
            [info] := by
        rw [Text.bindingsOf, List.flatMap_singleton, hheader]
        rfl
      rw [Snippet.inScope, List.cons_append, ← List.singleton_append, Text.bindingsOf_append,
        Text.bindingsOf_append, hfront, hback, hinner, Text.bindingsOf_map hsame]
      rfl
    rw [hbound]
    exact List.cons_subset.2 ⟨hi, List.append_subset.2
      ⟨h.bound, List.cons_subset.2 ⟨hr, List.nil_subset _⟩⟩⟩

/-- A signal uses the page, and what it binds is not used by the lines inside. -/
theorem hasNames_surrounded {used : Text → Prop} (h : snippet.HasNames used)
    (hused : ∀ name, used name → name ∉ resultNames) (kind : SignalKind) :
    (snippet.surrounded event.page kind).HasNames fun name => name = event.page ∨ used name := by
  cases kind with
  | dialog =>
    have hline := event.occurrences_dialogHandler
    constructor
    · intro name
      rw [Snippet.surrounded, Text.mem_freeNamesOf_cons, hline, h.free name]
      simp [Occurrence.freeNames, Occurrence.bindings, Occurrence.binding?]
    · rw [Snippet.surrounded, Text.bindingsOf, List.flatMap_cons, hline]
      exact h.bound
  | popup => exact hasNames_inScope h hused _ (by decide) (by decide) (by decide)
  | download => exact hasNames_inScope h hused _ (by decide) (by decide) (by decide)

/-- With signals the page is used, whatever the action does. -/
theorem hasNames_surroundedAll {used : Text → Prop} (h : snippet.HasNames used)
    (hused : ∀ name, used name → name ∉ resultNames) (kinds : List SignalKind) :
    (snippet.surroundedAll event.page kinds).HasNames
      fun name => kinds ≠ [] ∧ name = event.page ∨ used name := by
  induction kinds generalizing snippet used with
  | nil => exact h.congr fun name => by simp
  | cons kind kinds ih =>
    have hpage : event.page ∉ resultNames := (pageName_cases _).2
    refine (ih (hasNames_surrounded h hused kind) ?_).congr fun name => ?_
    · rintro name (rfl | hname)
      · exact hpage
      · exact hused name hname
    · simp only [ne_eq, List.cons_ne_nil, not_false_eq_true, true_and]
      tauto

/-- The lines of an event use what the event uses. -/
theorem hasNames_snippet (h : event.snippet.result = .ok snippet) :
    snippet.HasNames event.Uses := by
  obtain ⟨own, kinds, hown, hsignals, rfl⟩ := snippet_eq_ok_iff.1 h
  have hkinds : kinds ≠ [] ↔ event.signals ≠ [] := by
    have hlength := congrArg List.length hsignals
    simp only [List.length_map] at hlength
    rw [← List.length_pos_iff, ← List.length_pos_iff, hlength]
  refine (hasNames_surroundedAll (hasNames_actionSnippet hown)
    (fun _ hname => hname.not_mem_resultNames) kinds).congr fun name => ?_
  rw [hkinds, ActionUses, Uses, UsesPage]
  tauto

end Event

end Playback
