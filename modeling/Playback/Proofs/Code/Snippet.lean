import Playback.Proofs.Code.Action
import Playback.Proofs.Event.Snippet
import Playback.Proofs.Except
import Playback.Proofs.Text.Lines

/-!
# Snippets as code

* `Statement.isCode_line`: the line of a statement with plain names is code, with the literals of
  the statement's expressions.
* `Snippet.IsCode`: every line of a snippet is code. `Snippet.IsCode.surrounded`: signals keep this.
* `Snippet.HoldsIndented`: a snippet has given lines next to each other, indented alike.
* `Event.isCode_snippet`: whatever a recording holds, a snippet is code, and its literals have the
  recorded texts for their values.
-/

namespace Playback

namespace Statement

/-- All names of a statement are of plain characters; a comment is code without literals. -/
def HasPlainNames : Statement → Prop
  | .comment text => Text.IsCode text []
  | .fromImport source names => Text.IsPlain source ∧ ∀ name ∈ names, Text.IsPlain name
  | .expression e => e.HasPlainNames
  | .assignment name value => Text.IsPlain name ∧ value.HasPlainNames
  | .scope resource name => resource.HasPlainNames ∧ Text.IsPlain name
  | .pass => True

/-- The literals of a statement, in order. -/
def literals : Statement → List Text
  | .comment _ | .fromImport _ _ | .pass => []
  | .expression e => e.literals
  | .assignment _ value => value.literals
  | .scope resource _ => resource.literals

theorem isCode_line {statement : Statement} (h : statement.HasPlainNames) :
    Text.IsCode statement.line statement.literals := by
  cases statement with
  | comment text => exact (Text.IsPlain.isCode (by decide)).append h
  | fromImport source names =>
    have hnames : List.Forall₂ Text.IsCode names (names.map fun _ => []) := by
      refine List.forall₂_map_right_iff.2 (List.forall₂_same.2 fun name hn => ?_)
      exact (h.2 name hn).isCode
    have hlead : Text.IsPlain ("from " ++ source ++ " import " : Text) :=
      (Text.IsPlain.append (by decide) h.1).append (by decide)
    simpa [line, literals] using hlead.isCode.append (Text.isCode_joined hnames)
  | expression e => exact e.isCode_print h
  | assignment name value =>
    exact (h.1.append (t := " = ") (by decide)).isCode.append (value.isCode_print h.2)
  | scope resource name =>
    have hlead : Text.IsCode ("with " : Text) [] := Text.IsPlain.isCode (by decide)
    have hbind : Text.IsCode (" as " ++ (name ++ ":") : Text) [] :=
      (Text.IsPlain.append (by decide) (h.2.append (by decide))).isCode
    simpa [line, literals] using (hlead.append (resource.isCode_print h.1)).append hbind
  | pass => exact Text.IsPlain.isCode (by decide)

end Statement

namespace Text

theorem IsCode.indented {line : Text} {values : List Text} (h : IsCode line values) {lead : Text}
    (hl : IsPlain lead) : IsCode (Text.indented lead line) values := by
  unfold Text.indented
  split
  · exact h
  · exact hl.isCode.append h

end Text

namespace Snippet

/-- Every line of the snippet is code. -/
def IsCode (snippet : Snippet) : Prop := ∀ line ∈ snippet.lines, ∃ values, Text.IsCode line values

theorem isCode_ofStatements {statements : List Statement} (imports : List Import)
    (h : ∀ statement ∈ statements, statement.HasPlainNames) :
    (ofStatements statements imports).IsCode := by
  intro line hline
  obtain ⟨statement, hs, rfl⟩ := List.mem_map.1 hline
  exact ⟨_, statement.isCode_line (h statement hs)⟩

theorem isPlain_indentation : Text.IsPlain Statement.indentation := by decide

variable {snippet : Snippet} {page : Text}

theorem IsCode.inScope (h : snippet.IsCode) {method info name comment : Text}
    (hp : Text.IsPlain page) (hm : Text.IsPlain method) (hi : Text.IsPlain info)
    (hn : Text.IsPlain name) (hc : Text.IsCode comment []) :
    (snippet.inScope page method info name comment).IsCode := by
  have hstatement (statement : Statement) (hs : statement.HasPlainNames) :
      ∃ values, Text.IsCode statement.line values := ⟨_, statement.isCode_line hs⟩
  intro line hline
  simp only [Snippet.inScope, List.mem_append, List.mem_cons, List.not_mem_nil, or_false] at hline
  rcases hline with (rfl | hline) | rfl | rfl
  · exact hstatement (.scope _ info) ⟨⟨⟨hp, hm⟩, trivial, trivial⟩, hi⟩
  · obtain ⟨inner, hinner, rfl⟩ := List.mem_map.1 hline
    obtain ⟨values, hv⟩ := h inner hinner
    exact ⟨values, hv.indented isPlain_indentation⟩
  · exact hstatement (.assignment name _) ⟨hn, hi, by decide⟩
  · exact hstatement (.comment comment) hc

/-- The handler of dialogs is a call on the page. -/
theorem isCallOn_dialogHandler (page : Text) : ∃ e : Expression,
    dialogHandler page = .expression e ∧ e.IsCallOn (.name page) ["dialog"] := by
  have hname : Text.IsPlain ("dialog" : Text) := by decide
  have hdismiss : ((Expression.name "dialog").invoke "dismiss" []).HasPlainNames :=
    ⟨⟨hname, by decide⟩, trivial, trivial⟩
  exact ⟨_, rfl, Expression.isCallOn_invoke (by decide) ⟨trivial, ⟨hname, hdismiss⟩, trivial⟩⟩

/-- Signals put code around code. -/
theorem IsCode.surrounded (h : snippet.IsCode) (hp : Text.IsPlain page) (kind : SignalKind) :
    (snippet.surrounded page kind).IsCode := by
  cases kind with
  | dialog =>
    intro line hline
    rcases List.mem_cons.1 hline with rfl | hline
    · obtain ⟨e, he, hcall⟩ := isCallOn_dialogHandler page
      rw [he]
      exact ⟨_, e.isCode_print (hcall.hasPlainNames hp)⟩
    · exact h line hline
  | popup =>
    exact h.inScope hp (by decide) (by decide) (by decide) (Text.IsPlain.isCode (by decide))
  | download =>
    have hfront : Text.IsPlain ("download is now available - download.path" : Text) := by decide
    have hback : Text.IsPlain (", download.suggested_filename" : Text) := by decide
    have hcall : Text.IsCode (.char '(' :: ([] ++ [.char ')'])) [] :=
      Text.IsCode.bracketed rfl Text.isCode_nil
    have hcomment := (hfront.isCode.append hcall).append hback.isCode
    have hsplit : ("download is now available - download.path" : Text) ++
        (.char '(' :: ([] ++ [.char ')']) : Text) ++ (", download.suggested_filename" : Text) =
        ("download is now available - download.path(), download.suggested_filename" : Text) := by
      decide +kernel
    rw [hsplit] at hcomment
    exact h.inScope hp (by decide) (by decide) (by decide) hcomment

theorem IsCode.surroundedAll (h : snippet.IsCode) (hp : Text.IsPlain page)
    (kinds : List SignalKind) : (snippet.surroundedAll page kinds).IsCode :=
  surroundedAll_induction h fun _ kind h => h.surrounded hp kind

/-- The snippet has these lines next to each other, inside some number of blocks. -/
def HoldsIndented (snippet : Snippet) (lines : List Text) : Prop :=
  ∃ depth, lines.map (Text.indented (Statement.indentationOf depth)) <:+: snippet.lines

theorem holdsIndented_self (snippet : Snippet) : snippet.HoldsIndented snippet.lines := by
  have hid : Text.indented (Statement.indentationOf 0) = id := by
    funext line
    exact line.indented_zero
  refine ⟨0, [], [], ?_⟩
  rw [hid, List.map_id, List.nil_append, List.append_nil]

theorem HoldsIndented.surrounded {lines : List Text} (h : snippet.HoldsIndented lines)
    (kind : SignalKind) : (snippet.surrounded page kind).HoldsIndented lines := by
  obtain ⟨depth, hd⟩ := h
  have hscope (method info name comment : Text) :
      (snippet.inScope page method info name comment).HoldsIndented lines := by
    refine ⟨1 + depth, ?_⟩
    have hnested := hd.map (Text.indented Statement.indentation)
    have hcomp : Text.indented Statement.indentation ∘
        Text.indented (Statement.indentationOf depth) =
        Text.indented (Statement.indentationOf (1 + depth)) := by
      funext line
      exact Text.indented_indentationOf 1 depth line
    rw [List.map_map, hcomp] at hnested
    exact hnested.trans ⟨[_], _, rfl⟩
  cases kind with
  | dialog => exact ⟨depth, List.infix_cons hd⟩
  | popup => exact hscope ..
  | download => exact hscope ..

theorem holdsIndented_surroundedAll (snippet : Snippet) (page : Text) (kinds : List SignalKind) :
    (snippet.surroundedAll page kinds).HoldsIndented snippet.lines :=
  surroundedAll_induction (P := fun around => around.HoldsIndented snippet.lines)
    snippet.holdsIndented_self fun _ kind h => h.surrounded kind

end Snippet

section Actions

variable {event : Event}

theorem PageAction.hasPlainNames_statements (action : PageAction) (event : Event) :
    ∀ statement ∈ action.statements event, statement.HasPlainNames := by
  have hcomment : (Statement.comment ("New page: " ++ event.page)).HasPlainNames :=
    (Text.IsPlain.append (by decide) event.isPlain_page).isCode
  have hcall {method : Text} {arguments : List Expression} (hm : Text.IsPlain method)
      (ha : Expression.ItemsHavePlainNames arguments) :
      (Statement.expression ((Expression.name event.page).invoke method arguments)).HasPlainNames :=
    ⟨⟨event.isPlain_page, hm⟩, ha, trivial⟩
  cases action with
  | openPage =>
    unfold PageAction.statements
    dsimp only
    split
    · split
      · exact List.forall_mem_singleton.2 hcomment
      · refine List.forall_mem_cons.2 ⟨hcomment, List.forall_mem_singleton.2 ?_⟩
        exact hcall (by decide) ⟨trivial, trivial⟩
    · exact List.forall_mem_singleton.2 hcomment
  | closePage => exact List.forall_mem_singleton.2 (hcall (by decide) trivial)
  | navigate => exact List.forall_mem_singleton.2 (hcall (by decide) ⟨trivial, trivial⟩)

/-- What is recorded for an action on a page is the argument of a call on the page. -/
theorem PageAction.isCallOn_of_recorded {action : PageAction}
    (h : Action.ofName? event.name = some (.page action)) {recorded : List Text}
    (hr : event.recorded? = some recorded) :
    ∃ e : Expression, action.statements event = [.expression e] ∧
      e.IsCallOn (.name event.page) recorded := by
  rw [Event.recorded?_eq h] at hr
  cases action with
  | openPage => cases hr
  | closePage => cases hr
  | navigate =>
    rw [← Option.some.inj hr]
    exact ⟨_, rfl, Expression.isCallOn_invoke (by decide) ⟨trivial, trivial⟩⟩

/-- An action with a target is one call, on a receiver whose literals begin with the path to the
target's frame. -/
theorem Event.isCallOn_actionSnippet {own : Snippet} (h : event.actionSnippet.result = .ok own)
    (hpage : ∀ action, Action.ofName? event.name ≠ some (.page action)) :
    ∃ (e receiver : Expression) (texts : List Text), own.lines = [e.print] ∧
      e.IsCallOn receiver texts ∧ receiver.HasPlainNames ∧
      event.framePath <+: receiver.literals ∧
      ∀ recorded, event.recorded? = some recorded → recorded = texts := by
  have htarget (locator : Locator) : (locator.expression event.root).HasPlainNames ∧
      event.framePath <+: (locator.expression event.root).literals := by
    refine ⟨locator.hasPlainNames_expression event.hasPlainNames_root, ?_⟩
    have := locator.literals_prefix_expression event.root
    rwa [event.literals_root] at this
  rcases actionSnippet_eq_ok_iff.1 h with ⟨action, hname, -⟩ | ⟨action, locator, hname, -, rfl⟩ |
    ⟨action, locator, hname, -, rfl⟩
  · exact absurd hname (hpage action)
  · obtain ⟨texts, hcall, hrec⟩ := action.isCallOn_expression hname (locator.expression event.root)
    exact ⟨_, _, texts, rfl, hcall, (htarget locator).1, (htarget locator).2, hrec⟩
  · obtain ⟨texts, hcall, hrec⟩ := action.isCallOn_expression hname (locator.expression event.root)
    refine ⟨_, _, texts, rfl, hcall, hasPlainNames_expectation (htarget locator).1, ?_, hrec⟩
    rw [literals_expectation]
    exact (htarget locator).2

theorem Event.isCode_actionSnippet {own : Snippet} (h : event.actionSnippet.result = .ok own) :
    own.IsCode := by
  by_cases hpage : ∃ action, Action.ofName? event.name = some (.page action)
  · obtain ⟨action, hname⟩ := hpage
    rcases actionSnippet_eq_ok_iff.1 h with ⟨action, -, rfl⟩ | ⟨_, _, hother, -⟩ |
      ⟨_, _, hother, -⟩
    · exact Snippet.isCode_ofStatements [] (action.hasPlainNames_statements event)
    · cases hname.symm.trans hother
    · cases hname.symm.trans hother
  · obtain ⟨e, receiver, texts, hlines, hcall, hr, -⟩ :=
      isCallOn_actionSnippet h fun action hname => hpage ⟨action, hname⟩
    intro line hline
    rw [hlines] at hline
    cases List.mem_singleton.1 hline
    exact ⟨_, e.isCode_print (hcall.hasPlainNames hr)⟩

theorem Event.isCode_lines {snippet : Snippet} (h : event.snippet.result = .ok snippet) :
    snippet.IsCode := by
  obtain ⟨own, kinds, hown, -, rfl⟩ := snippet_eq_ok_iff.1 h
  exact (isCode_actionSnippet hown).surroundedAll event.isPlain_page kinds

/-- An event of which only the name of its action is recorded. -/
def Event.bare (name : Text) : Event where
  name := name
  selector := none
  locator := .null
  url := none
  text := none
  checked := none
  clickCount := none
  substring := none
  key := none
  modifiers := none
  button := none
  position := none
  options := none
  files := none
  value := none
  snapshot := none
  signals := []
  pageAlias := primaryPage
  framePath := []
  extras := []

/-- The actions that do not look for a target. -/
def pageActionNames : List Text := ["openPage", "closePage", "navigate"]

/-- Nothing that a recording holds gets out of its literal. Every line of a snippet is code; the
action's own lines stand in it as they are, but for the indentation. Where the action has a target,
these are one line, of which the first literals are the path to the target's frame. What is recorded
for the action are the literals of its arguments. -/
theorem Event.isCode_snippet {event : Event} {snippet : Snippet}
    (h : event.snippet.result = .ok snippet) :
    (∀ line ∈ snippet.lines, ∃ values, Text.IsCode line values) ∧
    ∃ own, event.actionSnippet.result = .ok own ∧ snippet.HoldsIndented own.lines ∧
      (event.name ∉ pageActionNames →
        ∃ line values, own.lines = [line] ∧ Text.IsCode line (event.framePath ++ values)) ∧
      ∀ recorded, event.recorded? = some recorded →
        ∃ line, own.lines = [line] ∧ Text.IsCallWith line recorded := by
  obtain ⟨own, kinds, hown, -, rfl⟩ := snippet_eq_ok_iff.1 h
  refine ⟨isCode_lines h, own, hown, own.holdsIndented_surroundedAll event.page kinds, ?_, ?_⟩
  · intro hname
    have hpage (action : PageAction) : Action.ofName? event.name ≠ some (.page action) := by
      intro hof
      have hmem := Action.mem_names hof
      refine hname ?_
      cases action <;> simp [Action.names] at hmem <;> simp [hmem, pageActionNames]
    obtain ⟨e, receiver, texts, hlines, hcall, hr, ⟨values, hvalues⟩, -⟩ :=
      isCallOn_actionSnippet hown hpage
    refine ⟨e.print, values ++ texts, hlines, ?_⟩
    rw [← List.append_assoc, hvalues, ← hcall.literals_eq]
    exact e.isCode_print (hcall.hasPlainNames hr)
  · intro recorded hrec
    by_cases hpage : ∃ action, Action.ofName? event.name = some (.page action)
    · obtain ⟨action, hname⟩ := hpage
      obtain ⟨e, hstatements, hcall⟩ := PageAction.isCallOn_of_recorded hname hrec
      rcases actionSnippet_eq_ok_iff.1 hown with ⟨other, hother, rfl⟩ | ⟨_, _, hother, -⟩ |
        ⟨_, _, hother, -⟩
      · cases hname.symm.trans hother
        refine ⟨e.print, ?_, hcall.isCallWith_print event.isPlain_page⟩
        rw [hstatements]
        rfl
      · cases hname.symm.trans hother
      · cases hname.symm.trans hother
    · obtain ⟨e, receiver, texts, hlines, hcall, hr, -, htexts⟩ :=
        isCallOn_actionSnippet hown fun action hname => hpage ⟨action, hname⟩
      cases htexts recorded hrec
      exact ⟨e.print, hlines, hcall.isCallWith_print hr⟩

/-- An event that fills in a text with a quote, a bracket, a backslash and line ends. -/
def Event.quotedFill : Event :=
  { Event.bare "fill" with
    selector := some "internal:role=textbox[name=\"Say\"i]"
    text := some "\"); quit()\r\n\\"
    signals := [⟨"popup", []⟩]
    framePath := ["#a\"b"] }

theorem Event.isCode_snippet_quotedFill :
    ∃ own, quotedFill.actionSnippet.result = .ok own ∧
      ∃ line, own.lines = [line] ∧ Text.IsCallWith line ["\"); quit()\r\n\\"] := by
  have hsome : quotedFill.snippet.result.toOption.isSome := by decide +kernel
  obtain ⟨snippet, hresult⟩ := Option.isSome_iff_exists.1 hsome
  have h : quotedFill.snippet.result = .ok snippet := toOption_eq_some_iff.1 hresult
  obtain ⟨-, own, hown, -, -, hrecorded⟩ := isCode_snippet h
  exact ⟨own, hown, hrecorded _ rfl⟩

end Actions

end Playback
