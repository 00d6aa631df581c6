import Mathlib.Algebra.GroupWithZero.Nat
import Playback.Proofs.Code.Snippet
import Playback.Proofs.FirstFailure
import Playback.Proofs.Locator.Steps
import Playback.Proofs.Text.Lines

/-!
# The code around an action

Each signal puts one line in front of the code of an action: a handler of dialogs, or the header of
a block that holds this code, two lines behind the block.

* `SignalKind.openings`, `SignalKind.closings`: the lines in front of the code and those behind it.
  `Snippet.lines_surroundedAll`: together with the code, indented, these are all lines.
* `Snippet.surroundedAll_inj`: the lines show the signals and the code inside, if this does not
  begin like the line of a signal. `Event.beginsOwn_actionSnippet`: no action does.
* `SignalKind.not_isOpening_of_mem_closings`: no line behind the code is that of a signal.
* `Event.signals_faithful`: all this for the signals of events.
-/

namespace Playback

namespace SignalKind

/-- The name of a kind. -/
def name : SignalKind → Text
  | .dialog => "dialog"
  | .popup => "popup"
  | .download => "download"

/-- How many blocks wait for a signal. -/
def blocks : SignalKind → Nat
  | .dialog => 0
  | .popup | .download => 1

/-- The line of a signal in front of an action. -/
def openingLine (page : Text) : SignalKind → Text
  | .dialog => page ++ ".on(\"dialog\", lambda dialog: dialog.dismiss())"
  | .popup => "with " ++ page ++ ".expect_popup() as popup_info:"
  | .download => "with " ++ page ++ ".expect_download() as download_info:"

/-- The lines of a signal behind an action. -/
def closingLines : SignalKind → List Text
  | .dialog => []
  | .popup =>
    ["popup_pg = popup_info.value",
      (Statement.comment "popup_pg is now available for further actions").line]
  | .download =>
    ["download = download_info.value",
      (Statement.comment
        "download is now available - download.path(), download.suggested_filename").line]

/-- The lines of several signals in front of an action, the outermost signal first. -/
def openings (page : Text) : List SignalKind → List Text
  | [] => []
  | kind :: inner =>
    kind.openingLine page ::
      (openings page inner).map (Text.indented (Statement.indentationOf kind.blocks))

/-- The lines of several signals behind an action, the outermost signal first. -/
def closings : List SignalKind → List Text
  | [] => []
  | kind :: inner =>
    (closings inner).map (Text.indented (Statement.indentationOf kind.blocks)) ++ kind.closingLines

/-! ## The lines of a signal -/

theorem line_dialogHandler (page : Text) :
    (dialogHandler page).line = openingLine page .dialog := by
  show page ++ "." ++ "on" ++ "(" ++ _ ++ ")" = _
  simp only [openingLine, List.append_assoc]
  rfl

theorem line_scope (page method info : Text) :
    (Statement.scope ((Expression.name page).invoke method []) info).line =
      "with " ++ page ++ ("." ++ method ++ "() as " ++ info ++ ":") := by
  simp [Statement.line, Expression.invoke, Expression.print, Expression.printItems,
    Expression.printKeywords, Text.joined, Text.ofString]

end SignalKind

namespace Snippet

open SignalKind

theorem lines_surrounded_eq (snippet : Snippet) (page : Text) (kind : SignalKind) :
    (snippet.surrounded page kind).lines = kind.openingLine page ::
      (snippet.lines.map (Text.indented (Statement.indentationOf kind.blocks)) ++
        kind.closingLines) := by
  have hzero : Text.indented (Statement.indentationOf 0) = id := funext Text.indented_zero
  cases kind with
  | dialog => simp [surrounded, line_dialogHandler, blocks, closingLines, hzero]
  | popup =>
    have hopening : (Statement.scope ((Expression.name page).invoke "expect_popup" [])
        "popup_info").line = openingLine page .popup := line_scope page "expect_popup" "popup_info"
    have hbinding : (Statement.assignment "popup_pg" (.member (.name "popup_info") "value")).line =
        ("popup_pg = popup_info.value" : Text) := by decide +kernel
    rw [surrounded, inScope, hopening, hbinding]
    rfl
  | download =>
    have hopening : (Statement.scope ((Expression.name page).invoke "expect_download" [])
        "download_info").line = openingLine page .download :=
      line_scope page "expect_download" "download_info"
    have hbinding :
        (Statement.assignment "download" (.member (.name "download_info") "value")).line =
          ("download = download_info.value" : Text) := by decide +kernel
    rw [surrounded, inScope, hopening, hbinding]
    rfl

theorem surroundedAll_cons_reverse (snippet : Snippet) (page : Text) (kind : SignalKind)
    (inner : List SignalKind) : snippet.surroundedAll page (kind :: inner).reverse =
      (snippet.surroundedAll page inner.reverse).surrounded page kind := by
  simp [surroundedAll]

/-- The lines of signals, the outermost first, and between them those of the code inside. -/
theorem lines_surroundedAll (snippet : Snippet) (page : Text) (outer : List SignalKind) :
    (snippet.surroundedAll page outer.reverse).lines = openings page outer ++
      snippet.indented (Statement.indentationOf (outer.map blocks).sum) ++ closings outer := by
  induction outer with
  | nil =>
    have hzero : Text.indented (Statement.indentationOf 0) = id := funext Text.indented_zero
    simp [surroundedAll, openings, closings, indented, hzero]
  | cons kind inner ih =>
    have hshift : Text.indented (Statement.indentationOf kind.blocks) ∘
        Text.indented (Statement.indentationOf (inner.map blocks).sum) =
          Text.indented (Statement.indentationOf ((kind :: inner).map blocks).sum) :=
      funext fun line => Text.indented_indentationOf _ _ line
    rw [surroundedAll_cons_reverse, lines_surrounded_eq, ih]
    simp [openings, closings, indented, hshift]

end Snippet

namespace SignalKind

/-- Each signal has one line in front of the code, with nothing in front of it but spaces. -/
theorem forall₂_openings (page : Text) (outer : List SignalKind) :
    List.Forall₂ (fun kind line => ∃ depth,
      line = Text.indented (Statement.indentationOf depth) (openingLine page kind))
      outer (openings page outer) := by
  induction outer with
  | nil => exact .nil
  | cons kind inner ih =>
    refine .cons ⟨0, (Text.indented_zero _).symm⟩ (List.forall₂_map_right_iff.2 (ih.imp ?_))
    rintro other _ ⟨depth, rfl⟩
    exact ⟨kind.blocks + depth, Text.indented_indentationOf ..⟩

/-- Each block has two lines behind the code. -/
theorem length_closings (outer : List SignalKind) :
    (closings outer).length = 2 * (outer.map blocks).sum := by
  induction outer with
  | nil => rfl
  | cons kind inner ih =>
    have hlines : kind.closingLines.length = 2 * kind.blocks := by cases kind <;> rfl
    simp only [closings, List.length_append, List.length_map, ih, hlines, List.map_cons,
      List.sum_cons]
    omega

theorem eq_name_of_ofName? {name : Text} {kind : SignalKind} (h : ofName? name = some kind) :
    name = kind.name := by
  have hmem : (name, kind) ∈ names := mem_of_lookup h
  simp only [names, List.mem_cons, Prod.mk.injEq, List.not_mem_nil, or_false] at hmem
  rcases hmem with ⟨rfl, rfl⟩ | ⟨rfl, rfl⟩ | ⟨rfl, rfl⟩ <;> rfl

/-- Known names are those of their kinds. -/
theorem eq_map_name {names : List Text} {kinds : List SignalKind}
    (h : names.map ofName? = kinds.map some) : names = kinds.map name := by
  induction names generalizing kinds with
  | nil => simpa using h
  | cons first names ih =>
    cases kinds with
    | nil => cases h
    | cons kind kinds =>
      obtain ⟨hfirst, hrest⟩ := List.cons_eq_cons.1 h
      rw [List.map_cons, ← ih hrest, eq_name_of_ofName? hfirst]

end SignalKind

/-- How many of the signals of these names are waited for by blocks. -/
def blockCount (names : List Text) : Nat :=
  names.count ("popup" : Text) + names.count ("download" : Text)

theorem SignalKind.sum_blocks (kinds : List SignalKind) :
    (kinds.map blocks).sum = blockCount (kinds.map name) := by
  induction kinds with
  | nil => rfl
  | cons kind kinds ih =>
    have hkind : kind.blocks = blockCount [kind.name] := by cases kind <;> decide
    have hcons (name : Text) (names : List Text) :
        blockCount (name :: names) = blockCount [name] + blockCount names := by
      simp only [blockCount, List.count_cons, List.count_nil]
      omega
    rw [List.map_cons, List.sum_cons, List.map_cons, hcons, ih, hkind]

/-! ## What the lines show -/

/-- The line begins with a name that is neither `with` nor followed by a call of `on`. -/
def Text.BeginsOwn (line : Text) : Prop :=
  ∃ name rest : Text, line = name ++ rest ∧ name.IsName ∧ rest.EndsName ∧ name ≠ ("with" : Text) ∧
    ∀ tail : Text, rest ≠ ".on(" ++ tail

namespace SignalKind

theorem ne_with_pageName (pageAlias : Text) : pageName pageAlias ≠ ("with" : Text) := by
  unfold pageName
  split
  · decide
  · intro h
    cases h

/-- What the line of a signal has behind the page. -/
def behindPage : SignalKind → Text
  | .dialog => ".on(\"dialog\", lambda dialog: dialog.dismiss())"
  | .popup => ".expect_popup() as popup_info:"
  | .download => ".expect_download() as download_info:"

theorem behindPage_inj {kind kind' : SignalKind} (h : kind.behindPage = kind'.behindPage) :
    kind = kind' := by
  revert h
  cases kind <;> cases kind' <;> decide

theorem endsName_behindPage (kind : SignalKind) : kind.behindPage.EndsName := by
  cases kind <;> exact Text.endsName_cons (p := .char '.') (by decide) _

theorem openingLine_of_ne {kind : SignalKind} (hk : kind ≠ .dialog) (page : Text) :
    kind.openingLine page = "with" ++ .char ' ' :: (page ++ kind.behindPage) := by
  cases kind with
  | dialog => exact absurd rfl hk
  | popup | download => simp [openingLine, behindPage, Text.ofString]

variable {pageAlias pageAlias' : Text} {kind kind' : SignalKind}

theorem isName_with : Text.IsName "with" := by decide

theorem endsName_space (t : Text) : Text.EndsName (.char ' ' :: t) :=
  Text.endsName_cons (by decide) t

/-- No line of a signal begins like the code of an action. -/
theorem openingLine_ne {line : Text} (h : line.BeginsOwn) :
    line ≠ kind.openingLine (pageName pageAlias) := by
  obtain ⟨name, rest, rfl, hname, hrest, hwith, hon⟩ := h
  intro hline
  by_cases hk : kind = .dialog
  · subst hk
    obtain ⟨-, hbehind⟩ := hname.append_inj (isName_pageName pageAlias) hrest
      (endsName_behindPage .dialog) hline
    exact hon "\"dialog\", lambda dialog: dialog.dismiss())" hbehind
  · rw [openingLine_of_ne hk] at hline
    exact hwith (hname.append_inj isName_with hrest (endsName_space _) hline).1

/-- The line of a dialog begins with the page, and that of another signal does not. -/
theorem openingLine_dialog_ne (hk : kind ≠ .dialog) :
    openingLine (pageName pageAlias) .dialog ≠ kind.openingLine (pageName pageAlias') := by
  rw [openingLine_of_ne hk]
  intro h
  have hboth := (isName_pageName pageAlias).append_inj isName_with (endsName_behindPage .dialog)
    (endsName_space _) h
  exact ne_with_pageName pageAlias hboth.1

/-- The line of a signal shows its kind and its page. -/
theorem openingLine_inj
    (h : kind.openingLine (pageName pageAlias) = kind'.openingLine (pageName pageAlias')) :
    kind = kind' ∧ pageName pageAlias = pageName pageAlias' := by
  have hpages {kind kind' : SignalKind} (h : pageName pageAlias ++ kind.behindPage =
      pageName pageAlias' ++ kind'.behindPage) :
      kind = kind' ∧ pageName pageAlias = pageName pageAlias' := by
    obtain ⟨hpage, hbehind⟩ := (isName_pageName pageAlias).append_inj (isName_pageName pageAlias')
      (endsName_behindPage kind) (endsName_behindPage kind') h
    exact ⟨behindPage_inj hbehind, hpage⟩
  by_cases hk : kind = .dialog
  · subst hk
    by_cases hk' : kind' = .dialog
    · subst hk'
      exact hpages h
    · exact absurd h (openingLine_dialog_ne hk')
  · by_cases hk' : kind' = .dialog
    · subst hk'
      exact absurd h.symm (openingLine_dialog_ne hk)
    · rw [openingLine_of_ne hk, openingLine_of_ne hk'] at h
      exact hpages (List.cons.inj (List.append_cancel_left h)).2

end SignalKind

namespace Snippet

open SignalKind

/-- The code inside begins like that of an action. -/
def BeginsOwn (snippet : Snippet) : Prop :=
  ∃ line rest, snippet.lines = line :: rest ∧ line.BeginsOwn

variable {own own' : Snippet} {pageAlias pageAlias' : Text}

theorem surrounded_ne (hown : own.BeginsOwn) (snippet : Snippet) (kind : SignalKind) :
    own.lines ≠ (snippet.surrounded (pageName pageAlias) kind).lines := by
  obtain ⟨line, rest, hlines, hline⟩ := hown
  rw [hlines, lines_surrounded_eq]
  intro h
  exact openingLine_ne hline (List.cons.inj h).1

/-- The lines around the code of an action show the signals, the page if there is a signal, and the
code. -/
theorem surroundedAll_inj (hown : own.BeginsOwn) (hown' : own'.BeginsOwn)
    {outer outer' : List SignalKind}
    (h : (own.surroundedAll (pageName pageAlias) outer.reverse).lines =
      (own'.surroundedAll (pageName pageAlias') outer'.reverse).lines) :
    outer = outer' ∧ own.lines = own'.lines ∧
      (outer ≠ [] → pageName pageAlias = pageName pageAlias') := by
  induction outer generalizing outer' with
  | nil =>
    cases outer' with
    | nil => exact ⟨rfl, h, fun hne => absurd rfl hne⟩
    | cons kind' inner' =>
      rw [surroundedAll_cons_reverse] at h
      exact absurd h (surrounded_ne hown _ _)
  | cons kind inner ih =>
    rw [surroundedAll_cons_reverse] at h
    cases outer' with
    | nil => exact absurd h.symm (surrounded_ne hown' _ _)
    | cons kind' inner' =>
      rw [surroundedAll_cons_reverse, lines_surrounded_eq, lines_surrounded_eq] at h
      obtain ⟨hopening, hrest⟩ := List.cons.inj h
      obtain ⟨rfl, hpage⟩ := openingLine_inj hopening
      obtain ⟨hinner, -⟩ := List.append_inj' hrest rfl
      obtain ⟨rfl, hlines, -⟩ := ih (List.map_injective_iff.2 (Text.indented_injective _) hinner)
      exact ⟨rfl, hlines, fun _ => hpage⟩

end Snippet

/-! ## The code of actions -/

/-- The text begins with a member or a call that is not `on`. -/
def Text.BeginsStep (t : Text) : Prop :=
  ∃ name rest : Text, t = .char '.' :: (name ++ rest) ∧ name.IsName ∧ name ≠ ("on" : Text) ∧
    rest.EndsName

namespace Text.BeginsStep

variable {t : Text}

theorem endsName (h : t.BeginsStep) : t.EndsName := by
  obtain ⟨name, rest, rfl, -⟩ := h
  exact endsName_cons (by decide) _

theorem ne_on (h : t.BeginsStep) (tail : Text) : t ≠ ".on(" ++ tail := by
  obtain ⟨name, rest, rfl, hname, hon, hrest⟩ := h
  intro ht
  have hbracket : Text.EndsName (.char '(' :: tail) := endsName_cons (by decide) tail
  have hname' : Text.IsName "on" := by decide
  exact hon (hname.append_inj hname' hrest hbracket (List.cons.inj ht).2).1

/-- Steps in front of a step begin with a step. -/
theorem steps (h : t.BeginsStep) (steps : List Step) :
    Text.BeginsStep (steps.flatMap Step.written ++ t) := by
  cases steps with
  | nil => exact h
  | cons step steps =>
    have hon : ∀ kind ∈ StepKind.all, kind.name ≠ ("on" : Text) := by decide +kernel
    refine ⟨step.kind.name, step.arguments ++ (steps.flatMap Step.written ++ t), ?_,
      step.kind.isName_name, hon _ step.kind.mem_all, ?_⟩
    · simp [Step.written]
    · exact step.endsName_arguments (Step.endsName_written steps h.endsName)

/-- A step behind a page is the beginning of an action's own code. -/
theorem beginsOwn (h : t.BeginsStep) (pageAlias : Text) : (pageName pageAlias ++ t).BeginsOwn :=
  ⟨_, _, rfl, isName_pageName pageAlias, h.endsName, SignalKind.ne_with_pageName pageAlias, h.ne_on⟩

end Text.BeginsStep

/-- The methods that actions call on pages and on targets. -/
def actionMethods : List Text :=
  ["goto", "close", "dblclick", "click", "fill", "press", "hover", "check", "uncheck",
    "select_option", "set_input_files"]

/-- A call of such a method is a step behind what it is called on. -/
theorem Expression.exists_print_call (target : Expression) {method : Text}
    (hm : method ∈ actionMethods) (arguments : List Expression)
    (keywords : List (Text × Expression)) : ∃ t : Text, t.BeginsStep ∧
      (Expression.call (.member target method) arguments keywords).print = target.print ++ t := by
  have hmethods : ∀ method ∈ actionMethods, method.IsName ∧ method ≠ ("on" : Text) := by
    decide +kernel
  have hbracket (t : Text) : Text.EndsName (.char '(' :: t) := Text.endsName_cons (by decide) t
  obtain ⟨hname, hon⟩ := hmethods method hm
  refine ⟨_, ⟨method, .char '(' :: (Text.joined ", " (printItems arguments ++
    printKeywords keywords) ++ ")"), rfl, hname, hon, hbracket _⟩, ?_⟩
  rw [Expression.print, print_member]
  simp [Text.ofString]

theorem Interaction.exists_call (action : Interaction) (event : Event) (target : Expression) :
    ∃ method ∈ actionMethods, ∃ arguments keywords,
      action.expression event target = .call (.member target method) arguments keywords := by
  cases action with
  | click =>
    simp only [Interaction.expression]
    split
    · exact ⟨"dblclick", by decide, _, _, rfl⟩
    · split <;> exact ⟨"click", by decide, _, _, rfl⟩
  | fill => exact ⟨"fill", by decide, _, _, rfl⟩
  | press => exact ⟨"press", by decide, _, _, rfl⟩
  | hover => exact ⟨"hover", by decide, _, _, rfl⟩
  | check => exact ⟨"check", by decide, _, _, rfl⟩
  | uncheck => exact ⟨"uncheck", by decide, _, _, rfl⟩
  | select => exact ⟨"select_option", by decide, _, _, rfl⟩
  | setInputFiles => exact ⟨"set_input_files", by decide, _, _, rfl⟩

/-- A comment is no line of a signal. -/
theorem Text.beginsOwn_comment (comment : Text) :
    Text.BeginsOwn (Statement.comment comment).line := by
  have hmark : Text.EndsName (.char '#' :: .char ' ' :: comment) := endsName_cons (by decide) _
  refine ⟨[], _, rfl, fun _ => nofun, hmark, nofun, fun tail h => ?_⟩
  exact absurd (List.cons.inj h).1 (by decide)

/-- An assertion is no line of a signal: it begins with the function of assertions. -/
theorem Text.beginsOwn_expect (rest : Text) : Text.BeginsOwn ("expect" ++ .char '(' :: rest) := by
  refine ⟨_, _, rfl, by decide, endsName_cons (by decide) rest, by decide, fun tail h => ?_⟩
  exact absurd (List.cons.inj h).1 (by decide)

/-- A call of an action on a page or on a target of it is no line of a signal. -/
theorem Text.beginsOwn_call {pageAlias : Text} {path : List Text} {locator : Locator}
    {target : Expression}
    (ht : target = locator.expression ((Expression.name (pageName pageAlias)).inFrames path))
    {method : Text} (hm : method ∈ actionMethods) (arguments : List Expression)
    (keywords : List (Text × Expression)) :
    (Expression.call (.member target method) arguments keywords).print.BeginsOwn := by
  obtain ⟨t, hstep, hprint⟩ := target.exists_print_call hm arguments keywords
  rw [hprint, ht, Locator.print_expression, Expression.print, List.append_assoc]
  exact (hstep.steps _).beginsOwn pageAlias

/-- The code of an action begins like that of no signal. -/
theorem Event.beginsOwn_actionSnippet {event : Event} {own : Snippet}
    (h : event.actionSnippet.result = .ok own) : own.BeginsOwn := by
  have hpage : Expression.name event.page = Locator.expression
      ((Expression.name (pageName event.pageAlias)).inFrames []) [] := rfl
  rcases actionSnippet_eq_ok_iff.1 h with ⟨action, hname, rfl⟩ | ⟨action, locator, hname, -, rfl⟩ |
    ⟨action, locator, hname, -, rfl⟩
  · cases action with
    | openPage =>
      have hfirst : ∃ rest, PageAction.openPage.statements event =
          .comment ("New page: " ++ event.page) :: rest := by
        simp only [PageAction.statements]
        split
        · split <;> exact ⟨_, rfl⟩
        · exact ⟨_, rfl⟩
      obtain ⟨rest, hrest⟩ := hfirst
      refine ⟨_, rest.map Statement.line, ?_, Text.beginsOwn_comment ("New page: " ++ event.page)⟩
      rw [Snippet.ofStatements, hrest]
      rfl
    | closePage => exact ⟨_, [], rfl, Text.beginsOwn_call hpage (by decide) _ _⟩
    | navigate => exact ⟨_, [], rfl, Text.beginsOwn_call hpage (by decide) _ _⟩
  · obtain ⟨method, hm, arguments, keywords, hcall⟩ :=
      action.exists_call event (locator.expression event.root)
    refine ⟨_, [], rfl, ?_⟩
    rw [Statement.line, hcall]
    exact Text.beginsOwn_call rfl hm _ _
  · obtain ⟨texts, hcall, -⟩ := action.isCallOn_expression hname (locator.expression event.root)
    obtain ⟨method, arguments, keywords, hcall, -⟩ := hcall
    refine ⟨_, [], rfl, ?_⟩
    rw [Statement.line, hcall]
    simp only [Expression.print, expectation, List.append_assoc]
    exact Text.beginsOwn_expect _

/-! ## Signals of events -/

/-- The line is that of a signal of this name, with nothing in front of it but spaces. -/
def IsOpening (page name line : Text) : Prop :=
  ∃ kind depth, SignalKind.ofName? name = some kind ∧
    line = Text.indented (Statement.indentationOf depth) (kind.openingLine page)

namespace SignalKind

/-- The kinds of the signals of these names, the outermost first. The first name is that of the
innermost signal. -/
def outermostFirst (names : List Text) : List SignalKind := (names.filterMap ofName?).reverse

theorem outermostFirst_of_map_eq {names : List Text} {kinds : List SignalKind}
    (h : names.map ofName? = kinds.map some) : outermostFirst names = kinds.reverse := by
  have hkinds : names.filterMap ofName? = kinds :=
    calc names.filterMap ofName? = (names.map ofName?).filterMap id := by
          rw [List.filterMap_map, Function.id_comp]
      _ = kinds := by rw [h, List.filterMap_map, Function.id_comp, List.filterMap_some]
  rw [outermostFirst, hkinds]

/-- The line of a signal ends in a bracket or in a colon. -/
theorem getLast?_openingLine (page : Text) (kind : SignalKind) :
    ∃ p ∈ ([.char ')', .char ':'] : Text), (kind.openingLine page).getLast? = some p := by
  have hfront : ∃ front, kind.openingLine page = front ++ kind.behindPage := by
    cases kind <;> exact ⟨_, rfl⟩
  have hbehind : ∃ p ∈ ([.char ')', .char ':'] : Text), kind.behindPage.getLast? = some p := by
    cases kind <;> decide +kernel
  obtain ⟨front, hline⟩ := hfront
  obtain ⟨p, hp, hlast⟩ := hbehind
  exact ⟨p, hp, by rw [hline, List.getLast?_append, hlast, Option.some_or]⟩

/-- No line behind the code does. -/
theorem getLast?_of_mem_closings {outer : List SignalKind} {line : Text}
    (h : line ∈ closings outer) :
    ∀ p ∈ ([.char ')', .char ':'] : Text), line.getLast? ≠ some p := by
  induction outer generalizing line with
  | nil => cases h
  | cons kind inner ih =>
    rcases List.mem_append.1 h with h | h
    · obtain ⟨own, hown, rfl⟩ := List.mem_map.1 h
      rw [Text.getLast?_indented]
      exact ih hown
    · have hlines : ∀ line ∈ kind.closingLines,
          ∀ p ∈ ([.char ')', .char ':'] : Text), line.getLast? ≠ some p := by
        cases kind <;> decide +kernel
      exact hlines line h

/-- No line behind the code is that of a signal, whatever the page and the signal are. -/
theorem not_isOpening_of_mem_closings {outer : List SignalKind} {line : Text}
    (h : line ∈ closings outer) (page name : Text) : ¬ IsOpening page name line := by
  rintro ⟨kind, depth, -, rfl⟩
  obtain ⟨p, hp, hlast⟩ := getLast?_openingLine page kind
  rw [← Text.getLast?_indented (Statement.indentationOf depth)] at hlast
  exact getLast?_of_mem_closings h p hp hlast

end SignalKind

/-- Known signals put the code inside as it is between their lines: one in front of it for each
signal, and two behind it for each block, in which it is indented once more. -/
theorem Snippet.exists_surroundAll (snippet : Snippet) (page : Text) (record : Json.Members)
    {names : List Text} (h : ∀ name ∈ names, name ∈ SignalKind.names.map Prod.fst) :
    ∃ result front back, snippet.surroundAll page record names = .ok result ∧
      result.lines = front ++
        snippet.indented (List.replicate (4 * blockCount names) (.char ' ')) ++ back ∧
      front = SignalKind.openings page (SignalKind.outermostFirst names) ∧
      List.Forall₂ (IsOpening page) names.reverse front ∧
      back = SignalKind.closings (SignalKind.outermostFirst names) ∧
      back.length = 2 * blockCount names ∧
      (∀ line ∈ back, ∀ other name, ¬ IsOpening other name line) ∧
      result.imports = snippet.imports := by
  obtain ⟨result, hresult⟩ := exists_surroundAll_iff.2 h
  obtain ⟨kinds, hkinds, rfl⟩ := surroundAll_eq_ok_iff.1 hresult
  have hnames := SignalKind.eq_map_name hkinds
  have hblocks : (kinds.reverse.map SignalKind.blocks).sum = blockCount names := by
    rw [List.map_reverse, List.sum_reverse, SignalKind.sum_blocks, ← hnames]
  have hlines := lines_surroundedAll snippet page kinds.reverse
  rw [List.reverse_reverse, hblocks, Statement.indentationOf_eq] at hlines
  rw [SignalKind.outermostFirst_of_map_eq hkinds]
  refine ⟨_, _, _, hresult, hlines, rfl, ?_, rfl, ?_,
    fun _ hline => SignalKind.not_isOpening_of_mem_closings hline,
    imports_surroundedAll snippet page kinds⟩
  · rw [hnames, ← List.map_reverse]
    refine List.forall₂_map_left_iff.2 ((SignalKind.forall₂_openings page _).imp ?_)
    rintro kind line ⟨depth, hline⟩
    exact ⟨kind, depth, by cases kind <;> rfl, hline⟩
  · rw [SignalKind.length_closings, hblocks]

/-- Events with the same lines have the same signals around the same code, and where there is a
signal they have the same page. -/
theorem Event.eq_of_lines_eq {event event' : Event} {snippet snippet' : Snippet}
    (h : event.snippet.result = .ok snippet) (h' : event'.snippet.result = .ok snippet')
    (hlines : snippet.lines = snippet'.lines) :
    event.signals.map Signal.name = event'.signals.map Signal.name ∧
      (∃ own own', event.actionSnippet.result = .ok own ∧ event'.actionSnippet.result = .ok own' ∧
        own.lines = own'.lines) ∧
      (event.signals ≠ [] → event.page = event'.page) := by
  obtain ⟨own, kinds, hown, hkinds, rfl⟩ := snippet_eq_ok_iff.1 h
  obtain ⟨own', kinds', hown', hkinds', rfl⟩ := snippet_eq_ok_iff.1 h'
  have hnames := SignalKind.eq_map_name hkinds
  have hnames' := SignalKind.eq_map_name hkinds'
  rw [← kinds.reverse_reverse, ← kinds'.reverse_reverse] at hlines
  obtain ⟨hsame, howns, hpage⟩ := Snippet.surroundedAll_inj (beginsOwn_actionSnippet hown)
    (beginsOwn_actionSnippet hown') hlines
  rw [List.reverse_inj] at hsame
  refine ⟨by rw [hnames, hnames', hsame], ⟨own, own', hown, hown', howns⟩, fun hsome => hpage ?_⟩
  rintro hnone
  rw [List.reverse_eq_nil_iff.1 hnone] at hnames
  exact hsome (List.map_eq_nil_iff.1 hnames)

/-- Events on the same page have the same lines exactly if they have the same signals and the same
code inside. -/
theorem Event.lines_eq_iff {event event' : Event} {own own' snippet snippet' : Snippet}
    (hpage : event.page = event'.page) (hown : event.actionSnippet.result = .ok own)
    (hown' : event'.actionSnippet.result = .ok own') (h : event.snippet.result = .ok snippet)
    (h' : event'.snippet.result = .ok snippet') :
    snippet.lines = snippet'.lines ↔
      event.signals.map Signal.name = event'.signals.map Signal.name ∧ own.lines = own'.lines := by
  constructor
  · intro hlines
    obtain ⟨hsignals, ⟨_, _, hfound, hfound', hsame⟩, -⟩ := eq_of_lines_eq h h' hlines
    cases hown.symm.trans hfound
    cases hown'.symm.trans hfound'
    exact ⟨hsignals, hsame⟩
  · rintro ⟨hsignals, hsame⟩
    obtain ⟨_, kinds, hfound, hkinds, rfl⟩ := snippet_eq_ok_iff.1 h
    obtain ⟨_, kinds', hfound', hkinds', rfl⟩ := snippet_eq_ok_iff.1 h'
    cases hown.symm.trans hfound
    cases hown'.symm.trans hfound'
    rw [HasSignals, hsignals, hkinds'] at hkinds
    cases List.map_injective_iff.2 (fun _ _ => Option.some.inj) hkinds
    rw [← kinds.reverse_reverse, Snippet.lines_surroundedAll, Snippet.lines_surroundedAll,
      Snippet.indented, Snippet.indented, hsame, hpage]

/-- Signals are put around an action faithfully, and the lines show which they are: the code inside
stays whole and in order, all handlers and headers of blocks are in front of it, and behind it are
the closing lines of the blocks. Events with the same lines have the same signals, the same code
inside and, where there is a signal, the same page. -/
theorem Event.signals_faithful :
    (∀ (snippet : Snippet) (page : Text) (record : Json.Members) (names : List Text),
      (∀ name ∈ names, name ∈ SignalKind.names.map Prod.fst) →
      ∃ result front back, snippet.surroundAll page record names = .ok result ∧
        result.lines = front ++
          snippet.indented (List.replicate (4 * blockCount names) (.char ' ')) ++ back ∧
        front = SignalKind.openings page (SignalKind.outermostFirst names) ∧
        List.Forall₂ (IsOpening page) names.reverse front ∧
        back = SignalKind.closings (SignalKind.outermostFirst names) ∧
        back.length = 2 * blockCount names ∧
        (∀ line ∈ back, ∀ other name, ¬ IsOpening other name line) ∧
        result.imports = snippet.imports) ∧
    ∀ (event event' : Event) (snippet snippet' : Snippet),
      event.snippet.result = .ok snippet → event'.snippet.result = .ok snippet' →
      snippet.lines = snippet'.lines →
      event.signals.map Signal.name = event'.signals.map Signal.name ∧
        (∃ own own', event.actionSnippet.result = .ok own ∧
          event'.actionSnippet.result = .ok own' ∧ own.lines = own'.lines) ∧
        (event.signals ≠ [] → event.page = event'.page) :=
  ⟨fun snippet page record _ h => snippet.exists_surroundAll page record h,
    fun _ _ _ _ h h' hlines => Event.eq_of_lines_eq h h' hlines⟩

/-- An event that closes a page. Its address is not in the code. -/
def Event.closing (url : Option Text) : Event :=
  { Event.bare "closePage" with url := url, signals := [⟨"popup", []⟩, ⟨"dialog", []⟩] }

/-- The page and the signals are in the lines of such an event, and the address is not. -/
theorem Event.signals_faithful_closing :
    (∃ result front back,
      Snippet.surroundAll ⟨["a", []], []⟩ "pg" [] ["popup", "dialog"] = .ok result ∧
      result.lines = front ++ (["    a", []] : List Text) ++ back ∧
      front = (["pg.on(\"dialog\", lambda dialog: dialog.dismiss())",
        "with pg.expect_popup() as popup_info:"] : List Text) ∧
      List.Forall₂ (IsOpening "pg") ["dialog", "popup"] front ∧
      back = (["popup_pg = popup_info.value",
        "# popup_pg is now available for further actions"] : List Text) ∧
      back.length = 2 ∧ (∀ line ∈ back, ∀ other name, ¬ IsOpening other name line) ∧
      result.imports = []) ∧
    ∃ own own', (closing none).actionSnippet.result = .ok own ∧
      (closing (some "a")).actionSnippet.result = .ok own' ∧ own.lines = own'.lines := by
  obtain ⟨hsurround, hshow⟩ := signals_faithful
  have hresult (url : Option Text) : (closing url).snippet.result =
      .ok ((Snippet.ofStatements [.expression ((Expression.name "pg").invoke "close" [])]
        []).surroundedAll "pg" [.popup, .dialog]) := rfl
  obtain ⟨result, front, back, hsurrounded, hlines, hfront, hopenings, hback, hrest⟩ :=
    hsurround ⟨["a", []], []⟩ "pg" [] ["popup", "dialog"] (by decide)
  refine ⟨⟨result, front, back, hsurrounded, hlines, hfront.trans (by decide +kernel), hopenings,
    hback.trans (by decide +kernel), hrest⟩, ?_⟩
  exact (hshow _ _ _ _ (hresult none) (hresult (some "a")) rfl).2.1

end Playback
