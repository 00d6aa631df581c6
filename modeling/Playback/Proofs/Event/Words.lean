import Playback.Proofs.Code.Action
import Playback.Proofs.Code.Words
import Playback.Proofs.Event.Snippet
import Playback.Proofs.Text.Lines

/-!
# The words of snippets

* `Text.IsOrdinary`: a word that has nothing to do with imports. `Expression.IsOrdinary`: all words
  of an expression are such.
* `Link.isOrdinary_apply`, `Interaction.isOrdinary_expression` and the like: recorded texts and the
  names of code bring in ordinary words only.
* `Snippet.Asserts`: the function of assertions is a word of a line. `Snippet.ImportsNowhere`: no
  word of a statement that imports is.
* `Event.asserts_snippet_iff`: an event's snippet asserts exactly if it imports the function for it,
  which depends on the action alone.
-/

namespace Playback

/-- The words that have to do with imports: the function that is imported for assertions, and the
words of the statements that import. -/
def importWords : List Text := [assertionImport.name, "from", "import"]

/-- A whole word that has nothing to do with imports. -/
def Text.IsOrdinary (t : Text) : Prop := t.IsWord ∧ t ∉ importWords

instance (t : Text) : Decidable t.IsOrdinary :=
  inferInstanceAs (Decidable (t.IsWord ∧ t ∉ importWords))

theorem isOrdinary_pageName (pageAlias : Text) : (pageName pageAlias).IsOrdinary := by
  have hname := isName_pageName pageAlias
  unfold pageName at hname ⊢
  split
  · decide
  · rw [if_neg (by assumption)] at hname
    exact ⟨⟨hname, nofun⟩, by simp [importWords, Text.ofString, assertionImport]⟩

/-- The words of a number are made of digits and the marks of numbers, and no word that has to do
with imports is. -/
theorem Number.isOrdinary_of_mem_words (n : Number) : ∀ word ∈ n.shown.words, word.IsOrdinary := by
  let within (p : CodePoint) : Bool := p.isAsciiDigit || numberMarks.contains p
  have hwithin : CodePoint.HoldsNumbers within :=
    ⟨fun p hp => by simp [within, hp], by decide⟩
  have hshown := n.forall_mem_shown hwithin
  have hother : ∀ word ∈ importWords, ∃ p ∈ word, within p = false := by decide
  intro word hword
  have hquote : .char '"' ∉ n.shown := fun hquote => absurd (hshown _ hquote) (by decide)
  obtain ⟨hwhole, hsubset⟩ := Text.of_mem_words hquote hword
  refine ⟨hwhole, fun hmem => ?_⟩
  obtain ⟨p, hp, hnot⟩ := hother word hmem
  exact absurd (hshown p (hsubset hp)) (by simp [hnot])

namespace Expression

/-- All words of the expression are ordinary. -/
def IsOrdinary (e : Expression) : Prop := ∀ word ∈ e.words, word.IsOrdinary

variable {e target callee body : Expression} {identifier method parameter value : Text}
  {items arguments : List Expression} {entries keywords : List (Text × Expression)}

@[simp] theorem isOrdinary_name : (name identifier).IsOrdinary ↔ identifier.IsOrdinary := by
  simp [IsOrdinary, words]

@[simp] theorem isOrdinary_text : (text value).IsOrdinary := by simp [IsOrdinary, words]

@[simp] theorem isOrdinary_bool (b : Bool) : (bool b).IsOrdinary := by
  cases b <;> simp [IsOrdinary, words] <;> decide

@[simp] theorem isOrdinary_number (n : Number) : (number n).IsOrdinary := n.isOrdinary_of_mem_words

@[simp] theorem isOrdinary_list : (list items).IsOrdinary ↔ ∀ item ∈ items, item.IsOrdinary := by
  simp only [IsOrdinary, words, wordsOfItems_eq, List.forall_mem_flatten, List.forall_mem_map]

@[simp] theorem isOrdinary_object :
    (object entries).IsOrdinary ↔ ∀ entry ∈ entries, entry.2.IsOrdinary := by
  simp only [IsOrdinary, words, wordsOfEntries_eq, List.forall_mem_flatten, List.forall_mem_map]

@[simp] theorem isOrdinary_member :
    (member target identifier).IsOrdinary ↔ target.IsOrdinary ∧ identifier.IsOrdinary := by
  simp [IsOrdinary, words, or_imp, forall_and]

@[simp] theorem isOrdinary_call : (call callee arguments keywords).IsOrdinary ↔
    callee.IsOrdinary ∧ (∀ argument ∈ arguments, argument.IsOrdinary) ∧
      ∀ keyword ∈ keywords, keyword.1.IsOrdinary ∧ keyword.2.IsOrdinary := by
  simp only [IsOrdinary, words, wordsOfItems_eq, wordsOfKeywords_eq, List.forall_mem_append,
    List.forall_mem_flatten, List.forall_mem_map, List.forall_mem_cons]

@[simp] theorem isOrdinary_callback :
    (callback parameter body).IsOrdinary ↔ parameter.IsOrdinary ∧ body.IsOrdinary := by
  have hlambda : Text.IsOrdinary "lambda" := by decide
  simp [IsOrdinary, words, hlambda]

@[simp] theorem isOrdinary_invoke : (target.invoke identifier arguments).IsOrdinary ↔
    (target.IsOrdinary ∧ identifier.IsOrdinary) ∧ ∀ argument ∈ arguments, argument.IsOrdinary := by
  simp [invoke]

@[simp] theorem isOrdinary_invokeWith : (target.invokeWith identifier keywords).IsOrdinary ↔
    (target.IsOrdinary ∧ identifier.IsOrdinary) ∧
      ∀ keyword ∈ keywords, keyword.1.IsOrdinary ∧ keyword.2.IsOrdinary := by
  simp [invokeWith]

theorem IsOrdinary.inFrames (h : target.IsOrdinary) (path : List Text) :
    (target.inFrames path).IsOrdinary := by
  have hlocator : Text.IsOrdinary "locator" := by decide
  have hframe : Text.IsOrdinary "content_frame" := by decide
  unfold Expression.inFrames
  induction path generalizing target with
  | nil => exact h
  | cons selector path ih => exact ih (by simp [h, hlocator, hframe])

end Expression

theorem Event.isOrdinary_page (event : Event) : event.page.IsOrdinary := isOrdinary_pageName _

theorem Event.isOrdinary_root (event : Event) : event.root.IsOrdinary :=
  (Expression.isOrdinary_name.2 event.isOrdinary_page).inFrames event.framePath

section Locators

open Expression

variable {target root : Expression}

theorem TextTarget.isOrdinary_method (kind : TextTarget) : kind.method.IsOrdinary := by
  cases kind <;> decide

theorem AriaState.isOrdinary_keyword (state : AriaState) : state.keyword.IsOrdinary := by
  cases state <;> decide

theorem StateValue.isOrdinary_expression (value : StateValue) : value.expression.IsOrdinary := by
  cases value <;> simp [expression]

theorem Link.isOrdinary_apply (h : target.IsOrdinary) (link : Link) :
    (link.apply target).IsOrdinary := by
  have hexact (exact : Bool) : ∀ keyword ∈ exactKeyword exact,
      keyword.1.IsOrdinary ∧ keyword.2.IsOrdinary := by
    have hname : Text.IsOrdinary "exact" := by decide
    cases exact <;> simp [exactKeyword, hname]
  have hcall {method content : Text} {keywords : List (Text × Expression)}
      (hm : method.IsOrdinary)
      (hk : ∀ keyword ∈ keywords, keyword.1.IsOrdinary ∧ keyword.2.IsOrdinary) :
      (Link.call target method content keywords).IsOrdinary := by
    exact isOrdinary_call.2 ⟨isOrdinary_member.2 ⟨h, hm⟩, by simp, hk⟩
  cases link with
  | role role name exact states =>
    refine hcall (by decide) fun keyword hk => ?_
    rcases List.mem_append.1 hk with hk | hk
    · rcases List.mem_append.1 hk with hk | hk
      · obtain ⟨n, -, rfl⟩ := List.mem_map.1 hk
        exact ⟨show Text.IsOrdinary "name" from by decide, isOrdinary_text⟩
      · exact hexact exact keyword hk
    · obtain ⟨⟨state, value⟩, -, rfl⟩ := List.mem_map.1 hk
      exact ⟨state.isOrdinary_keyword, value.isOrdinary_expression⟩
  | byText kind content exact => exact hcall kind.isOrdinary_method (hexact exact)
  | testId id => exact hcall (by decide) nofun
  | selector s => exact hcall (by decide) nofun
  | nth position =>
    have hnth : Text.IsOrdinary "nth" := by decide
    simp [Link.apply, h, hnth]
  | first => exact isOrdinary_member.2 ⟨h, by decide⟩
  | last => exact isOrdinary_member.2 ⟨h, by decide⟩

theorem Locator.isOrdinary_expression (h : root.IsOrdinary) (locator : Locator) :
    (locator.expression root).IsOrdinary := by
  unfold Locator.expression
  induction locator generalizing root with
  | nil => exact h
  | cons link locator ih => exact ih (link.isOrdinary_apply h)

end Locators

section Actions

open Expression

variable {target : Expression}

theorem Values.isOrdinary_expression (values : Values) : values.expression.IsOrdinary := by
  unfold Values.expression
  split <;> simp

theorem Event.isOrdinary_positionKeyword (event : Event) : ∀ keyword ∈ event.positionKeyword,
    keyword.1.IsOrdinary ∧ keyword.2.IsOrdinary := by
  have hname : Text.IsOrdinary "position" := by decide
  unfold Event.positionKeyword
  cases event.position <;> simp [hname, Position.expression]

theorem Event.isOrdinary_clickKeywords (event : Event) : ∀ keyword ∈ event.clickKeywords,
    keyword.1.IsOrdinary ∧ keyword.2.IsOrdinary := by
  have hbutton : Text.IsOrdinary "button" := by decide
  have hmodifiers : Text.IsOrdinary "modifiers" := by decide
  refine List.forall_mem_append.2 ⟨List.forall_mem_append.2 ⟨?_, ?_⟩,
    event.isOrdinary_positionKeyword⟩
  · split
    · split <;> simp [hbutton]
    · simp
  · split <;> simp [hmodifiers]

theorem Interaction.isOrdinary_expression (h : target.IsOrdinary) (action : Interaction)
    (event : Event) : (action.expression event target).IsOrdinary := by
  have hinvoke {method : Text} {arguments : List Expression} (hm : method.IsOrdinary)
      (ha : ∀ argument ∈ arguments, argument.IsOrdinary) :
      (target.invoke method arguments).IsOrdinary :=
    isOrdinary_invoke.2 ⟨⟨h, hm⟩, ha⟩
  have hwith {method : Text} {keywords : List (Text × Expression)} (hm : method.IsOrdinary)
      (hk : ∀ keyword ∈ keywords, keyword.1.IsOrdinary ∧ keyword.2.IsOrdinary) :
      (target.invokeWith method keywords).IsOrdinary :=
    isOrdinary_invokeWith.2 ⟨⟨h, hm⟩, hk⟩
  cases action with
  | click =>
    have hcount : Text.IsOrdinary "click_count" := by decide
    unfold Interaction.expression
    dsimp only
    split
    · exact hinvoke (by decide) nofun
    · split
      · exact hwith (by decide) (by simp [hcount])
      · exact hwith (by decide) event.isOrdinary_clickKeywords
  | fill | press => exact hinvoke (by decide) (by simp [textOrEmpty])
  | hover => exact hwith (by decide) event.isOrdinary_positionKeyword
  | check | uncheck => exact hinvoke (by decide) nofun
  | select =>
    refine hinvoke (by decide) (List.forall_mem_singleton.2 ?_)
    cases event.options with
    | none => simp
    | some options => exact options.isOrdinary_expression
  | setInputFiles =>
    refine hinvoke (by decide) (List.forall_mem_singleton.2 ?_)
    cases event.files with
    | none => simp
    | some files => exact files.isOrdinary_expression

/-- The first word of an assertion is the function that is imported for it; the others are
ordinary. -/
theorem Assertion.words_expression (h : target.IsOrdinary) (action : Assertion) (event : Event) :
    ∃ rest, (action.expression event target).words = assertionImport.name :: rest ∧
      ∀ word ∈ rest, word.IsOrdinary := by
  have hinvoke {method : Text} {arguments : List Expression} (hm : method.IsOrdinary)
      (ha : ∀ argument ∈ arguments, argument.IsOrdinary) :
      ∃ rest, ((expectation target).invoke method arguments).words =
        assertionImport.name :: rest ∧ ∀ word ∈ rest, word.IsOrdinary := by
    refine ⟨target.words ++ method :: wordsOfItems arguments, ?_, ?_⟩
    · simp [invoke, expectation, words, wordsOfItems, wordsOfKeywords]
    · rw [List.forall_mem_append, List.forall_mem_cons, wordsOfItems_eq, List.forall_mem_flatten,
        List.forall_mem_map]
      exact ⟨h, hm, ha⟩
  cases action with
  | text =>
    refine hinvoke ?_ (by simp [textOrEmpty])
    split <;> decide
  | visible => exact hinvoke (by decide) (List.forall_mem_nil _)
  | checked =>
    refine hinvoke ?_ (List.forall_mem_nil _)
    split <;> decide
  | value =>
    unfold Assertion.expression
    dsimp only
    split
    · split
      · exact hinvoke (by decide) (List.forall_mem_nil _)
      · exact hinvoke (by decide) (by simp)
    · exact hinvoke (by decide) (List.forall_mem_nil _)
  | snapshot => exact hinvoke (by decide) (by simp [textOrEmpty])

end Actions

/-! ## Snippets -/

/-- All words of the line are ordinary. -/
def Text.IsOrdinaryLine (line : Text) : Prop := ∀ word ∈ line.words, word.IsOrdinary

/-- The line has no word of a statement that imports. -/
def Text.HasNoImport (line : Text) : Prop :=
  ("from" : Text) ∉ line.words ∧ ("import" : Text) ∉ line.words

theorem Text.IsOrdinary.isWord {t : Text} (h : t.IsOrdinary) : t.IsWord := h.1

theorem Text.IsOrdinaryLine.hasNoImport {line : Text} (h : line.IsOrdinaryLine) :
    line.HasNoImport :=
  ⟨fun hword => absurd (h _ hword) (by decide), fun hword => absurd (h _ hword) (by decide)⟩

theorem Text.IsOrdinaryLine.not_mem_words {line : Text} (h : line.IsOrdinaryLine) :
    assertionImport.name ∉ line.words :=
  fun hword => absurd (h _ hword) (by decide)

theorem Statement.isOrdinaryLine_expression {e : Expression} (h : e.IsOrdinary) :
    (expression e).line.IsOrdinaryLine := by
  rw [Text.IsOrdinaryLine, words_line_expression fun word hword => (h word hword).isWord]
  exact h

theorem Statement.isOrdinaryLine_comment (text : Text) : (comment text).line.IsOrdinaryLine := by
  rw [Text.IsOrdinaryLine, words_line_comment]
  exact nofun

theorem Statement.isOrdinaryLine_assignment {name : Text} {value : Expression}
    (hn : name.IsOrdinary) (h : value.IsOrdinary) :
    (assignment name value).line.IsOrdinaryLine := by
  rw [Text.IsOrdinaryLine, words_line_assignment hn.isWord fun word hword => (h word hword).isWord]
  exact List.forall_mem_cons.2 ⟨hn, h⟩

theorem Statement.isOrdinaryLine_scope {resource : Expression} {name : Text}
    (h : resource.IsOrdinary) (hn : name.IsOrdinary) :
    (scope resource name).line.IsOrdinaryLine := by
  rw [Text.IsOrdinaryLine, words_line_scope (fun word hword => (h word hword).isWord) hn.isWord]
  refine List.forall_mem_cons.2 ⟨by decide, List.forall_mem_append.2 ⟨h, ?_⟩⟩
  exact List.forall_mem_cons.2 ⟨by decide, List.forall_mem_singleton.2 hn⟩

theorem PageAction.isOrdinaryLine_statements (action : PageAction) (event : Event) :
    ∀ statement ∈ action.statements event, statement.line.IsOrdinaryLine := by
  have hpage : (Expression.name event.page).IsOrdinary :=
    Expression.isOrdinary_name.2 event.isOrdinary_page
  have hcall {method : Text} {arguments : List Expression} (hm : method.IsOrdinary)
      (ha : ∀ argument ∈ arguments, argument.IsOrdinary) :
      (Statement.expression
        ((Expression.name event.page).invoke method arguments)).line.IsOrdinaryLine :=
    Statement.isOrdinaryLine_expression (Expression.isOrdinary_invoke.2 ⟨⟨hpage, hm⟩, ha⟩)
  have hcomment := Statement.isOrdinaryLine_comment ("New page: " ++ event.page)
  cases action with
  | openPage =>
    unfold PageAction.statements
    dsimp only
    split
    · split
      · exact List.forall_mem_singleton.2 hcomment
      · refine List.forall_mem_cons.2 ⟨hcomment, List.forall_mem_singleton.2 ?_⟩
        exact hcall (by decide) (by simp)
    · exact List.forall_mem_singleton.2 hcomment
  | closePage => exact List.forall_mem_singleton.2 (hcall (by decide) nofun)
  | navigate =>
    exact List.forall_mem_singleton.2 (hcall (by decide) (by simp [Expression.textOrEmpty]))

namespace Snippet

/-- The function of assertions is a word of a line. -/
def Asserts (snippet : Snippet) : Prop :=
  ∃ line ∈ snippet.lines, assertionImport.name ∈ line.words

/-- No line has a word of a statement that imports. -/
def ImportsNowhere (snippet : Snippet) : Prop := ∀ line ∈ snippet.lines, line.HasNoImport

variable {snippet : Snippet} {page : Text}

/-- A signal puts lines of ordinary words around those of the snippet. -/
theorem exists_lines_surrounded (hp : page.IsOrdinary) (snippet : Snippet) (kind : SignalKind) :
    ∃ front depth back, (snippet.surrounded page kind).lines =
        front ++ snippet.lines.map (Text.indented (Statement.indentationOf depth)) ++ back ∧
      ∀ line ∈ front ++ back, line.IsOrdinaryLine := by
  have hpage : (Expression.name page).IsOrdinary := Expression.isOrdinary_name.2 hp
  have hscope {method info name comment : Text} (hm : method.IsOrdinary) (hi : info.IsOrdinary)
      (hn : name.IsOrdinary) : ∃ front depth back,
        (snippet.inScope page method info name comment).lines =
          front ++ snippet.lines.map (Text.indented (Statement.indentationOf depth)) ++ back ∧
        ∀ line ∈ front ++ back, line.IsOrdinaryLine := by
    refine ⟨[_], 1, [_, _], rfl, ?_⟩
    have hvalue : Text.IsOrdinary "value" := by decide
    simp only [List.singleton_append, List.forall_mem_cons]
    exact ⟨Statement.isOrdinaryLine_scope (by simp [hp, hm]) hi,
      Statement.isOrdinaryLine_assignment hn (by simp [hi, hvalue]),
      Statement.isOrdinaryLine_comment comment, nofun⟩
  cases kind with
  | dialog =>
    refine ⟨[(dialogHandler page).line], 0, [], ?_, List.forall_mem_singleton.2 ?_⟩
    · have hid : Text.indented (Statement.indentationOf 0) = id := funext Text.indented_zero
      rw [hid, List.map_id, List.append_nil]
      rfl
    · have hon : Text.IsOrdinary "on" := by decide
      have hdialog : Text.IsOrdinary "dialog" := by decide
      have hdismiss : Text.IsOrdinary "dismiss" := by decide
      exact Statement.isOrdinaryLine_expression (by simp [hp, hon, hdialog, hdismiss])
  | popup => exact hscope (by decide) (by decide) (by decide)
  | download => exact hscope (by decide) (by decide) (by decide)

/-- Signals put no further assertion around a snippet, and hide none. -/
theorem asserts_surrounded_iff (hp : page.IsOrdinary) (kind : SignalKind) :
    (snippet.surrounded page kind).Asserts ↔ snippet.Asserts := by
  obtain ⟨front, depth, back, hlines, hordinary⟩ := exists_lines_surrounded hp snippet kind
  have hnot (line : Text) (hline : line ∈ front ++ back) : assertionImport.name ∉ line.words :=
    (hordinary line hline).not_mem_words
  unfold Asserts
  rw [hlines]
  constructor
  · rintro ⟨line, hline, hword⟩
    simp only [List.mem_append] at hline hnot
    rcases hline with (hline | hline) | hline
    · exact absurd hword (hnot line (.inl hline))
    · obtain ⟨inner, hinner, rfl⟩ := List.mem_map.1 hline
      rw [Text.words_indented] at hword
      exact ⟨inner, hinner, hword⟩
    · exact absurd hword (hnot line (.inr hline))
  · rintro ⟨line, hline, hword⟩
    refine ⟨Text.indented (Statement.indentationOf depth) line, ?_, ?_⟩
    · exact List.mem_append_left _ (List.mem_append_right _ (List.mem_map_of_mem hline))
    · rwa [Text.words_indented]

theorem ImportsNowhere.surrounded (h : snippet.ImportsNowhere) (hp : page.IsOrdinary)
    (kind : SignalKind) : (snippet.surrounded page kind).ImportsNowhere := by
  obtain ⟨front, depth, back, hlines, hordinary⟩ := exists_lines_surrounded hp snippet kind
  intro line hline
  rw [hlines] at hline
  simp only [List.mem_append] at hline hordinary
  rcases hline with (hline | hline) | hline
  · exact (hordinary line (.inl hline)).hasNoImport
  · obtain ⟨inner, hinner, rfl⟩ := List.mem_map.1 hline
    rw [Text.HasNoImport, Text.words_indented]
    exact h inner hinner
  · exact (hordinary line (.inr hline)).hasNoImport

/-- What lines of ordinary words make is a snippet without assertions. -/
theorem of_isOrdinaryLine (h : ∀ line ∈ snippet.lines, line.IsOrdinaryLine) :
    ¬ snippet.Asserts ∧ snippet.ImportsNowhere := by
  refine ⟨?_, fun line hline => (h line hline).hasNoImport⟩
  rintro ⟨line, hline, hword⟩
  exact (h line hline).not_mem_words hword

end Snippet

/-! ## Events -/

/-- The names of the actions that assert something. -/
def assertionNames : List Text :=
  ["assertText", "assertVisible", "assertChecked", "assertValue", "assertSnapshot"]

theorem Action.exists_assertion_iff {name : Text} :
    (∃ action, ofName? name = some (.assertion action)) ↔ name ∈ assertionNames := by
  constructor
  · rintro ⟨action, h⟩
    have hmem := mem_names h
    cases action <;> simp [names] at hmem <;> simp [hmem, assertionNames]
  · intro h
    simp only [assertionNames, List.mem_cons, List.not_mem_nil, or_false] at h
    rcases h with rfl | rfl | rfl | rfl | rfl <;> exact ⟨_, rfl⟩

namespace Event

variable {event : Event}

/-- What is true of an action's own snippet: it asserts if the action is an assertion, and then it
imports the function for it. -/
theorem asserts_actionSnippet_iff {own : Snippet} (h : event.actionSnippet.result = .ok own) :
    (own.Asserts ↔ event.name ∈ assertionNames) ∧
      (assertionImport ∈ own.imports ↔ event.name ∈ assertionNames) ∧ own.ImportsNowhere := by
  rw [← Action.exists_assertion_iff]
  have hother {action : Action} (hname : Action.ofName? event.name = some action)
      (hnot : ∀ assertion, action ≠ .assertion assertion) :
      ¬ ∃ assertion, Action.ofName? event.name = some (.assertion assertion) := by
    rintro ⟨assertion, hassertion⟩
    exact hnot assertion (Option.some.inj (hname.symm.trans hassertion))
  rcases actionSnippet_eq_ok_iff.1 h with ⟨action, hname, rfl⟩ | ⟨action, locator, hname, -, rfl⟩ |
    ⟨action, locator, hname, -, rfl⟩
  · -- actions on pages and on targets have no word that an assertion or an import needs
    have hnot := hother hname nofun
    have hlines : ∀ line ∈ (Snippet.ofStatements (action.statements event) []).lines,
        line.IsOrdinaryLine := List.forall_mem_map.2 (action.isOrdinaryLine_statements event)
    obtain ⟨hasserts, himports⟩ := Snippet.of_isOrdinaryLine hlines
    exact ⟨iff_of_false hasserts hnot, iff_of_false nofun hnot, himports⟩
  · have hnot := hother hname nofun
    have hordinary := Statement.isOrdinaryLine_expression <| action.isOrdinary_expression
      (locator.isOrdinary_expression event.isOrdinary_root) event
    obtain ⟨hasserts, himports⟩ : ¬ (Snippet.ofStatements [_] []).Asserts ∧
        (Snippet.ofStatements [_] []).ImportsNowhere :=
      Snippet.of_isOrdinaryLine (List.forall_mem_singleton.2 hordinary)
    exact ⟨iff_of_false hasserts hnot, iff_of_false nofun hnot, himports⟩
  · -- an assertion begins with the one word that makes it one
    obtain ⟨rest, hwords, hrest⟩ := action.words_expression
      (locator.isOrdinary_expression event.isOrdinary_root) event
    have hline : (Statement.expression
        (action.expression event (locator.expression event.root))).line.words =
          assertionImport.name :: rest := by
      rw [Statement.words_line_expression, hwords]
      rw [hwords, List.forall_mem_cons]
      exact ⟨by decide, fun word hword => (hrest word hword).isWord⟩
    have hassertion : ∃ assertion, Action.ofName? event.name = some (.assertion assertion) :=
      ⟨action, hname⟩
    refine ⟨iff_of_true ?_ hassertion, iff_of_true List.mem_cons_self hassertion, ?_⟩
    · exact ⟨_, List.mem_cons_self, hline ▸ List.mem_cons_self⟩
    · have hnot {word : Text} (hfirst : word ≠ assertionImport.name) (hword : ¬ word.IsOrdinary) :
          word ∉ assertionImport.name :: rest :=
        List.not_mem_cons_of_ne_of_not_mem hfirst fun hmem => hword (hrest word hmem)
      refine List.forall_mem_singleton.2 ?_
      rw [Text.HasNoImport, hline]
      exact ⟨hnot (by decide) (by decide), hnot (by decide) (by decide)⟩

/-- A snippet asserts exactly if it imports the function for it, and that is exactly if the event's
action is an assertion, whatever signals it has. -/
theorem asserts_snippet_iff {snippet : Snippet} (h : event.snippet.result = .ok snippet) :
    (snippet.Asserts ↔ event.name ∈ assertionNames) ∧
      (assertionImport ∈ snippet.imports ↔ event.name ∈ assertionNames) ∧
      snippet.ImportsNowhere := by
  obtain ⟨own, kinds, hown, -, rfl⟩ := snippet_eq_ok_iff.1 h
  obtain ⟨hasserts, himports, hnowhere⟩ := asserts_actionSnippet_iff hown
  rw [Snippet.imports_surroundedAll]
  have hpage := event.isOrdinary_page
  let Holds (around : Snippet) : Prop :=
    (around.Asserts ↔ event.name ∈ assertionNames) ∧ around.ImportsNowhere
  have hall : Holds (own.surroundedAll event.page kinds) :=
    Snippet.surroundedAll_induction (P := Holds) ⟨hasserts, hnowhere⟩ fun around kind hbefore =>
      ⟨(Snippet.asserts_surrounded_iff hpage kind).trans hbefore.1,
        hbefore.2.surrounded hpage kind⟩
  exact ⟨hall.1, himports, hall.2⟩

end Event

end Playback
