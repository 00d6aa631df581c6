import Playback.Proofs.Assoc
import Playback.Proofs.Code.Snippet
import Playback.Proofs.Layout.Checker

/-!
# The layout of snippets

The checker meets three kinds of snippets. One of comments alone leaves the layout as it is. A solid
one leaves the block that it stands in innermost. A broken one is never accepted: it has a block
that holds only a comment.

* `Layout.IsSolid`, `Layout.IsBroken`: lines of which this is true wherever a statement may stand.
* `Snippet.isSolid_surrounded`, `Snippet.isBroken_surrounded`: signals keep both.
* `Event.HasEmptyBlock`: a page is opened at no address, and the first thing that this sets off is
  waited for by a block. `Event.isBroken_lines`, `Event.isSolid_lines`: such an event has a broken
  snippet, and no other event has one.
-/

namespace Playback

/-- The line is a statement that is no header of a block. -/
structure Text.IsSimple (line : Text) : Prop where
  beginsWithLetter : line.BeginsWithLetter
  isHeaderLine : line.isHeaderLine = false

/-- The line is the header of a block. -/
structure Text.IsHeader (line : Text) : Prop where
  beginsWithLetter : line.BeginsWithLetter
  isHeaderLine : line.isHeaderLine = true

namespace Layout

/-- Wherever a statement may stand, the lines are accepted and leave its block innermost. -/
def IsSolid (lines : List Text) : Prop :=
  ∀ ⦃depth outer layout⦄, Admits (4 * depth) outer layout →
    layout.read depth lines = some ⟨4 * depth :: outer, false⟩

/-- The lines are not accepted where a statement may stand. -/
def IsBroken (lines : List Text) : Prop :=
  ∀ ⦃depth outer layout⦄, Admits (4 * depth) outer layout → layout.read depth lines = none

variable {front back body comments : List Text} {line header binding : Text}

theorem isSolid_simple (h : line.IsSimple) : IsSolid [line] := by
  intro depth outer layout ha
  rw [read_cons, step_letter h.beginsWithLetter ha, h.isHeaderLine]
  rfl

theorem IsSolid.append (hf : IsSolid front) (hb : IsSolid back) : IsSolid (front ++ back) := by
  intro depth outer layout ha
  rw [read_append, hf ha]
  exact hb (admits_self _ _)

theorem IsSolid.append_broken (hf : IsSolid front) (hb : IsBroken back) :
    IsBroken (front ++ back) := by
  intro depth outer layout ha
  rw [read_append, hf ha]
  exact hb (admits_self _ _)

theorem IsBroken.append (hf : IsBroken front) (back : List Text) : IsBroken (front ++ back) := by
  intro depth outer layout ha
  rw [read_append, hf ha]
  rfl

theorem IsSolid.append_comments (hf : IsSolid front) (hc : ∀ line ∈ comments, line.IsComment) :
    IsSolid (front ++ comments) := by
  intro depth outer layout ha
  rw [read_append, hf ha]
  exact read_comments hc

theorem IsSolid.comments_append (hb : IsSolid back) (hc : ∀ line ∈ comments, line.IsComment) :
    IsSolid (comments ++ back) := by
  intro depth outer layout ha
  rw [read_append, read_comments hc]
  exact hb ha

/-- Lines inside a block. -/
def nested (lines : List Text) : List Text := lines.map (Text.indented Statement.indentation)

private theorem read_block (hh : header.IsHeader) (body : List Text) {depth : Nat}
    {outer : List Nat} {layout : Layout} (ha : Admits (4 * depth) outer layout) :
    layout.read depth (header :: nested body ++ [binding]) =
      (read ⟨4 * depth :: outer, true⟩ (depth + 1) body).bind (·.read depth [binding]) := by
  rw [List.cons_append, read_cons, step_letter hh.beginsWithLetter ha, hh.isHeaderLine]
  rw [Option.bind_some, read_append, nested, Statement.indentation_eq, read_indented]

theorem isSolid_block (hh : header.IsHeader) (hb : IsSolid body) (hl : binding.IsSimple) :
    IsSolid (header :: nested body ++ [binding]) := by
  intro depth outer layout ha
  rw [read_block hh body ha, hb (admits_block (4 * depth) outer)]
  exact isSolid_simple hl (.next [4 * (depth + 1)] (by simp))

/-- A block that holds only comments is still waited for where the line behind it stands. -/
theorem isBroken_block_comments (hh : header.IsHeader) (hc : ∀ line ∈ comments, line.IsComment)
    (hl : binding.BeginsWithLetter) : IsBroken (header :: nested comments ++ [binding]) := by
  intro depth outer layout ha
  rw [read_block hh comments ha, read_comments hc, Option.bind_some, read_cons,
    ← Text.leadingSpaces_letter hl depth, step_eq_none (Text.isSkipped_letter hl depth)]
  rfl

theorem isBroken_block (hh : header.IsHeader) (hb : IsBroken body) (binding : Text) :
    IsBroken (header :: nested body ++ [binding]) := by
  intro depth outer layout ha
  rw [read_block hh body ha, hb (admits_block (4 * depth) outer)]
  rfl

end Layout

/-! ## What the code of an action begins with -/

namespace Expression

theorem print_prefix_member (target : Expression) (identifier : Text) :
    target.print <+: (member target identifier).print := by
  rw [Expression.print, List.append_assoc]
  exact List.prefix_append ..

theorem print_prefix_call (callee : Expression) (arguments : List Expression)
    (keywords : List (Text × Expression)) :
    callee.print <+: (call callee arguments keywords).print := by
  rw [Expression.print, List.append_assoc, List.append_assoc]
  exact List.prefix_append ..

theorem print_prefix_inFrames (root : Expression) (path : List Text) :
    root.print <+: (root.inFrames path).print := by
  unfold inFrames
  induction path generalizing root with
  | nil => exact List.prefix_rfl
  | cons selector path ih =>
    refine List.IsPrefix.trans ?_ (ih _)
    exact ((print_prefix_member root _).trans (print_prefix_call _ _ _)).trans
      (print_prefix_member _ _)

theorem IsCallOn.isSimple_print {e receiver : Expression} {texts : List Text}
    (h : e.IsCallOn receiver texts) (hr : receiver.print.BeginsWithLetter) : e.print.IsSimple := by
  obtain ⟨method, arguments, keywords, rfl, -⟩ := h
  constructor
  · exact hr.mono ((print_prefix_member receiver method).trans (print_prefix_call _ _ _))
  · rw [Expression.print, Text.isHeaderLine, List.getLast?_append]
    rfl

end Expression

theorem Link.print_prefix_apply (target : Expression) (link : Link) :
    target.print <+: (link.apply target).print := by
  have hcall (method : Text) (arguments : List Expression) (keywords : List (Text × Expression)) :
      target.print <+: (Expression.call (.member target method) arguments keywords).print :=
    (target.print_prefix_member method).trans (Expression.print_prefix_call _ _ _)
  cases link with
  | first | last => exact target.print_prefix_member _
  | role | byText | testId | selector | nth => exact hcall ..

theorem Locator.print_prefix_expression (root : Expression) (locator : Locator) :
    root.print <+: (locator.expression root).print := by
  unfold Locator.expression
  induction locator generalizing root with
  | nil => exact List.prefix_rfl
  | cons link locator ih => exact (link.print_prefix_apply root).trans (ih _)

theorem Event.beginsWithLetter_page (event : Event) : event.page.BeginsWithLetter := by
  unfold Event.page pageName
  split
  · exact ⟨_, _, rfl, rfl⟩
  · exact ⟨_, _, rfl, rfl⟩

theorem Event.beginsWithLetter_locator (event : Event) (locator : Locator) :
    (locator.expression event.root).print.BeginsWithLetter :=
  event.beginsWithLetter_page.mono <|
    (Expression.print_prefix_inFrames (.name event.page) event.framePath).trans
      (locator.print_prefix_expression event.root)

theorem Statement.isHeader_scope (resource : Expression) (name : Text) :
    (Statement.scope resource name).line.IsHeader := by
  refine ⟨⟨_, _, rfl, rfl⟩, ?_⟩
  rw [Statement.line, Text.isHeaderLine, List.getLast?_append]
  rfl

/-! ## Snippets and their signals -/

namespace Snippet

variable {snippet : Snippet} {page : Text}

open Layout

/-- The line of a dialog's handler, in front of the action. -/
private theorem isSimple_dialogHandler (hp : page.BeginsWithLetter) :
    (dialogHandler page).line.IsSimple := by
  obtain ⟨e, he, hcall⟩ := isCallOn_dialogHandler page
  rw [he]
  exact hcall.isSimple_print hp

/-- Any other signal is waited for by a block around the action. A statement and a comment
follow. -/
private theorem lines_surrounded {kind : SignalKind} (hk : kind ≠ .dialog) (page : Text) :
    ∃ header binding comment : Text, header.IsHeader ∧ binding.IsSimple ∧ comment.IsComment ∧
      ∀ snippet : Snippet, (snippet.surrounded page kind).lines =
        (header :: Layout.nested snippet.lines ++ [binding]) ++ [comment] := by
  have hheader (method info : Text) :
      (Statement.scope ((Expression.name page).invoke method []) info).line.IsHeader :=
    Statement.isHeader_scope _ info
  have hlines (snippet : Snippet) (method info name comment : Text) :
      (snippet.inScope page method info name comment).lines =
        ((Statement.scope ((Expression.name page).invoke method []) info).line ::
          Layout.nested snippet.lines ++
          [(Statement.assignment name (.member (.name info) "value")).line]) ++
        [(Statement.comment comment).line] := by
    simp [Snippet.inScope, Layout.nested, Snippet.nested, Snippet.indented]
  cases kind with
  | dialog => exact absurd rfl hk
  | popup =>
    exact ⟨_, _, _, hheader _ _, ⟨⟨_, _, rfl, rfl⟩, by decide⟩, ⟨_, rfl⟩, fun _ => hlines ..⟩
  | download =>
    exact ⟨_, _, _, hheader _ _, ⟨⟨_, _, rfl, rfl⟩, by decide⟩, ⟨_, rfl⟩, fun _ => hlines ..⟩

theorem isSolid_surrounded (hs : IsSolid snippet.lines) (hp : page.BeginsWithLetter)
    (kind : SignalKind) : IsSolid (snippet.surrounded page kind).lines := by
  by_cases hk : kind = .dialog
  · rw [hk]
    exact (isSolid_simple (isSimple_dialogHandler hp)).append hs
  · obtain ⟨header, binding, comment, hh, hb, hc, hlines⟩ := lines_surrounded hk page
    rw [hlines]
    exact (isSolid_block hh hs hb).append_comments (List.forall_mem_singleton.2 hc)

theorem isBroken_surrounded (hs : IsBroken snippet.lines) (hp : page.BeginsWithLetter)
    (kind : SignalKind) : IsBroken (snippet.surrounded page kind).lines := by
  by_cases hk : kind = .dialog
  · rw [hk]
    exact (isSolid_simple (isSimple_dialogHandler hp)).append_broken hs
  · obtain ⟨header, binding, comment, hh, -, -, hlines⟩ := lines_surrounded hk page
    rw [hlines]
    exact (isBroken_block hh hs binding).append _

/-- A dialog makes comments solid: its handler is a statement. -/
theorem isSolid_surrounded_comments (hs : ∀ line ∈ snippet.lines, line.IsComment)
    (hp : page.BeginsWithLetter) : IsSolid (snippet.surrounded page .dialog).lines :=
  (isSolid_simple (isSimple_dialogHandler hp)).append_comments hs

/-- Any other signal breaks them: they are all that its block holds. -/
theorem isBroken_surrounded_comments (hs : ∀ line ∈ snippet.lines, line.IsComment)
    {kind : SignalKind} (hk : kind ≠ .dialog) (page : Text) :
    IsBroken (snippet.surrounded page kind).lines := by
  obtain ⟨header, binding, comment, hh, hb, -, hlines⟩ := lines_surrounded hk page
  rw [hlines]
  exact (isBroken_block_comments hh hs hb.beginsWithLetter).append _

theorem isSolid_surroundedAll (hs : IsSolid snippet.lines) (hp : page.BeginsWithLetter)
    (kinds : List SignalKind) : IsSolid (snippet.surroundedAll page kinds).lines :=
  surroundedAll_induction (P := fun around => IsSolid around.lines) hs
    fun _ kind hs => isSolid_surrounded hs hp kind

theorem isBroken_surroundedAll (hs : IsBroken snippet.lines) (hp : page.BeginsWithLetter)
    (kinds : List SignalKind) : IsBroken (snippet.surroundedAll page kinds).lines :=
  surroundedAll_induction (P := fun around => IsBroken around.lines) hs
    fun _ kind hs => isBroken_surrounded hs hp kind

end Snippet

/-! ## The snippets of events -/

namespace Event

/-- The event opens a page that goes nowhere: its address is missing, empty or that of a blank
page. -/
def OpensBlankPage (event : Event) : Prop :=
  event.name = ("openPage" : Text) ∧
    ∀ url, event.url = some url → url = [] ∨ url ∈ (["about:blank", "chrome://newtab/"] : List Text)

/-- The event opens a page that goes nowhere, and its first signal is one that a block waits for. -/
def HasEmptyBlock (event : Event) : Prop :=
  event.OpensBlankPage ∧
    ∃ signal, event.signals.head? = some signal ∧ signal.name ∈ (["popup", "download"] : List Text)

open Layout

variable {event : Event} {own snippet : Snippet}

theorem OpensBlankPage.ofName?_name (h : event.OpensBlankPage) :
    Action.ofName? event.name = some (.page .openPage) := by
  rw [h.1]
  rfl

/-- No other action opens a blank page. -/
theorem not_opensBlankPage {action : Action} (h : Action.ofName? event.name = some action)
    (hne : action ≠ .page .openPage) : ¬ event.OpensBlankPage :=
  fun hblank => hne (Option.some.inj (h.symm.trans hblank.ofName?_name))

private theorem isSolid_call {e receiver : Expression} {texts : List Text}
    (h : e.IsCallOn receiver texts) (hr : receiver.print.BeginsWithLetter) :
    IsSolid [(Statement.expression e).line] :=
  isSolid_simple (h.isSimple_print hr)

/-- A page that is opened is a comment, and a call where it goes to an address. -/
theorem statements_openPage (hname : event.name = ("openPage" : Text)) :
    (event.OpensBlankPage ∧ PageAction.openPage.statements event =
        [.comment ("New page: " ++ event.page)]) ∨
      (¬ event.OpensBlankPage ∧ ∃ url, PageAction.openPage.statements event =
        [.comment ("New page: " ++ event.page),
          .expression ((Expression.name event.page).invoke "goto" [.text url])]) := by
  unfold PageAction.statements
  dsimp only
  split
  · next url hurl =>
    by_cases hblank : url.isEmpty || blankPages.contains url
    · rw [if_pos hblank]
      refine .inl ⟨⟨hname, fun other hother => ?_⟩, rfl⟩
      cases hurl.symm.trans hother
      simpa [blankPages] using hblank
    · rw [if_neg hblank]
      refine .inr ⟨fun h => absurd (h.2 url hurl) ?_, url, rfl⟩
      simpa [blankPages] using hblank
  · next hurl =>
    refine .inl ⟨⟨hname, fun other hother => ?_⟩, rfl⟩
    cases hurl.symm.trans hother

private theorem layout_openPage (hname : event.name = ("openPage" : Text)) :
    let lines := (PageAction.openPage.statements event).map Statement.line
    (event.OpensBlankPage → ∀ line ∈ lines, line.IsComment) ∧
      (¬ event.OpensBlankPage → IsSolid lines) := by
  have hcomment : ∀ line ∈ [(Statement.comment ("New page: " ++ event.page)).line],
      Text.IsComment line := List.forall_mem_singleton.2 ⟨_, rfl⟩
  rcases statements_openPage hname with ⟨hblank, hstatements⟩ | ⟨hblank, url, hstatements⟩
  · rw [hstatements]
    exact ⟨fun _ => hcomment, fun h => absurd hblank h⟩
  · have hgoto : ((Expression.name event.page).invoke "goto" [.text url]).IsCallOn
        (.name event.page) [url] := Expression.isCallOn_invoke (by decide) ⟨trivial, trivial⟩
    rw [hstatements]
    refine ⟨fun h => absurd h hblank, fun _ => ?_⟩
    exact (isSolid_call hgoto event.beginsWithLetter_page).comments_append hcomment

/-- The own code of an event is a comment where a page goes nowhere, and solid anywhere else. -/
theorem layout_actionSnippet (h : event.actionSnippet.result = .ok own) :
    (event.OpensBlankPage → ∀ line ∈ own.lines, line.IsComment) ∧
      (¬ event.OpensBlankPage → IsSolid own.lines) := by
  rcases actionSnippet_eq_ok_iff.1 h with ⟨action, hname, rfl⟩ | ⟨action, locator, hname, -, rfl⟩ |
    ⟨action, locator, hname, -, rfl⟩
  · cases action with
    | openPage =>
      exact layout_openPage (by simpa [Action.names] using Action.mem_names hname)
    | closePage =>
      refine ⟨fun hblank => absurd hblank (not_opensBlankPage hname (by decide)), fun _ => ?_⟩
      exact isSolid_call (Expression.isCallOn_invoke (by decide) trivial)
        event.beginsWithLetter_page
    | navigate =>
      refine ⟨fun hblank => absurd hblank (not_opensBlankPage hname (by decide)), fun _ => ?_⟩
      exact isSolid_call (Expression.isCallOn_invoke (by decide) ⟨trivial, trivial⟩)
        event.beginsWithLetter_page
  · obtain ⟨texts, hcall, -⟩ := action.isCallOn_expression hname (locator.expression event.root)
    refine ⟨fun hblank => absurd hblank (not_opensBlankPage hname (by simp)), fun _ => ?_⟩
    exact isSolid_call hcall (event.beginsWithLetter_locator locator)
  · obtain ⟨texts, hcall, -⟩ := action.isCallOn_expression hname (locator.expression event.root)
    refine ⟨fun hblank => absurd hblank (not_opensBlankPage hname (by simp)), fun _ => ?_⟩
    have hexpect : (Expression.name assertionImport.name).print.BeginsWithLetter :=
      ⟨_, _, rfl, rfl⟩
    exact isSolid_call hcall (hexpect.mono (Expression.print_prefix_call _ _ _))

private theorem mem_blocks_iff {name : Text} {kind : SignalKind}
    (h : SignalKind.ofName? name = some kind) :
    name ∈ (["popup", "download"] : List Text) ↔ kind ≠ .dialog := by
  have hmem : (name, kind) ∈ SignalKind.names := mem_of_lookup h
  simp only [SignalKind.names, List.mem_cons, Prod.mk.injEq, List.not_mem_nil, or_false] at hmem
  rcases hmem with ⟨rfl, rfl⟩ | ⟨rfl, rfl⟩ | ⟨rfl, rfl⟩ <;> decide

/-- The first signal of an event, and whether a block waits for it. -/
theorem HasSignals.head?_eq {kinds : List SignalKind} (h : event.HasSignals kinds) :
    (∃ signal, event.signals.head? = some signal ∧
      signal.name ∈ (["popup", "download"] : List Text)) ↔
    ∃ kind, kinds.head? = some kind ∧ kind ≠ .dialog := by
  unfold HasSignals at h
  cases hsignals : event.signals with
  | nil =>
    rw [hsignals] at h
    cases kinds with
    | nil => simp
    | cons kind rest => cases h
  | cons signal signals =>
    rw [hsignals] at h
    cases kinds with
    | nil => cases h
    | cons kind rest =>
      have hkind : SignalKind.ofName? signal.name = some kind := (List.cons_eq_cons.1 h).1
      simpa using mem_blocks_iff hkind

/-- The snippet of an event with an empty block is broken. -/
theorem isBroken_lines (h : event.snippet.result = .ok snippet) (hempty : event.HasEmptyBlock) :
    IsBroken snippet.lines := by
  obtain ⟨own, kinds, hown, hsignals, rfl⟩ := snippet_eq_ok_iff.1 h
  obtain ⟨kind, hkind, hdialog⟩ := hsignals.head?_eq.1 hempty.2
  obtain ⟨rest, rfl⟩ := List.head?_eq_some_iff.1 hkind
  have hcomments := (layout_actionSnippet hown).1 hempty.1
  exact Snippet.isBroken_surroundedAll (Snippet.isBroken_surrounded_comments hcomments hdialog _)
    event.beginsWithLetter_page rest

/-- The snippet of any other event is solid, or comments alone. -/
theorem isSolid_lines (h : event.snippet.result = .ok snippet) (hempty : ¬ event.HasEmptyBlock) :
    IsSolid snippet.lines ∨ ∀ line ∈ snippet.lines, line.IsComment := by
  obtain ⟨own, kinds, hown, hsignals, rfl⟩ := snippet_eq_ok_iff.1 h
  have hpage := event.beginsWithLetter_page
  by_cases hblank : event.OpensBlankPage
  · have hcomments := (layout_actionSnippet hown).1 hblank
    cases kinds with
    | nil => exact .inr hcomments
    | cons kind rest =>
      by_cases hkind : kind = .dialog
      · rw [hkind]
        exact .inl (Snippet.isSolid_surroundedAll
          (Snippet.isSolid_surrounded_comments hcomments hpage) hpage rest)
      · exact absurd ⟨hblank, hsignals.head?_eq.2 ⟨kind, rfl, hkind⟩⟩ hempty
  · exact .inl (Snippet.isSolid_surroundedAll ((layout_actionSnippet hown).2 hblank) hpage kinds)

end Event

end Playback
