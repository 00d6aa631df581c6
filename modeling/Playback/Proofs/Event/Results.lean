import Mathlib.Data.List.Count
import Playback.Proofs.Layout.Snippet
import Playback.Proofs.Event.Signals
import Playback.Proofs.Output.Imports

/-!
# What the blocks around an action bind

The block of a popup or a download binds a variable, and a line behind the block reads its result
from it. The variables of two blocks for the same kind of signal have the same name.

* `SignalResult`: the names of a result and of the variable that it is read from.
  `SignalResult.Binds`, `SignalResult.Reads`: the lines with them.
* `Text.Closes`: the block that ends in front of a line, and its header.
* `SignalResult.AreOwn`: each line that reads a variable finds there what the header of its own
  block bound.
* `SignalResult.IsOwnWhereFirst`: a line does so exactly if it is the first one to read the
  variable. `SignalResult.isOwnWhereFirst_surroundedAll`: this is how signals read their results.
* `Event.areOwn_iff`: so all results are their blocks' own exactly if no kind of signal that has a
  result comes twice.
-/

namespace Playback

/-- The result of a signal: what kind of signal has it, its name, and the variable that the block of
the signal binds and the result is read from. -/
structure SignalResult where
  kind : SignalKind
  name : Text
  info : Text

namespace SignalResult

/-- The results that signals have. -/
def all : List SignalResult :=
  [⟨.popup, "popup_pg", "popup_info"⟩, ⟨.download, "download", "download_info"⟩]

/-- What the header of a block that binds the variable of a result ends in. -/
def binding (result : SignalResult) : Text := " as " ++ result.info ++ ":"

/-- The line is the header of a block that binds the variable of a result. -/
def Binds (result : SignalResult) (line : Text) : Prop :=
  ("with " : Text) <+: line.unindented ∧ result.binding <:+ line.unindented

/-- What a line that reads a result has behind its indentation. -/
def reading (result : SignalResult) : Text := result.name ++ " = " ++ result.info ++ ".value"

/-- The line reads a result from its variable. -/
def Reads (result : SignalResult) (line : Text) : Prop := line.unindented = result.reading

instance (result : SignalResult) : DecidablePred result.Binds := fun line =>
  inferInstanceAs (Decidable (_ <+: line.unindented ∧ _ <:+ line.unindented))

instance (result : SignalResult) : DecidablePred result.Reads := fun line =>
  inferInstanceAs (Decidable (line.unindented = result.reading))

end SignalResult

/-- Behind `front` the line closes a block: the lines of the block stand deeper than the line, and
the header in front of them where the line does. -/
structure Text.Closes (line header : Text) (block front : List Text) : Prop where
  behind : header :: block <:+ front
  header : header.leadingSpaces = line.leadingSpaces
  block : ∀ inner ∈ block, line.leadingSpaces < inner.leadingSpaces

namespace SignalResult

/-- Each line that reads the result closes a block whose header bound the variable, and no header in
between bound it again. -/
def AreOwn (result : SignalResult) (lines : List Text) : Prop :=
  ∀ front line, front ++ [line] <+: lines → result.Reads line →
    ∃ header block, line.Closes header block front ∧ result.Binds header ∧
      ∀ inner ∈ block, ¬ result.Binds inner

/-- Each line that reads the result closes a block whose header bound the variable, and it is the
first such line exactly if no header in between bound it again. -/
def IsOwnWhereFirst (result : SignalResult) (lines : List Text) : Prop :=
  ∀ front line, front ++ [line] <+: lines → result.Reads line →
    ∃ header block, line.Closes header block front ∧ result.Binds header ∧
      ((∀ inner ∈ block, ¬ result.Binds inner) ↔ ∀ other ∈ front, ¬ result.Reads other)

end SignalResult

/-! ## Lines and their blocks -/

namespace Text

variable {line header lead : Text} {front block lines : List Text}

theorem unindented_of_prefix {p : CodePoint} (hp : p ≠ .char ' ') (h : p :: lead <+: line) :
    line.unindented = line := by
  obtain ⟨rest, rfl⟩ := h
  exact List.dropWhile_cons_of_neg (by simpa using hp)

theorem unindented_indented (depth : Nat) (line : Text) :
    (indented (Statement.indentationOf depth) line).unindented = line.unindented := by
  by_cases h : line = []
  · rw [h]
    rfl
  · rw [indented_eq_shifted depth h, unindented_shifted]

theorem leadingSpaces_indented (depth : Nat) (h : line ≠ []) :
    (indented (Statement.indentationOf depth) line).leadingSpaces =
      4 * depth + line.leadingSpaces := by
  rw [indented_eq_shifted depth h, shifted, leadingSpaces,
    List.takeWhile_append_of_pos fun p hp => by simp [List.eq_of_mem_replicate hp],
    List.length_append, List.length_replicate, leadingSpaces]

/-- A line closes only one block. -/
theorem Closes.unique (h : line.Closes header block front) {header' : Text} {block' : List Text}
    (h' : line.Closes header' block' front) : header = header' ∧ block = block' := by
  have hnot {header header' : Text} {block block' : List Text}
      (h : line.Closes header block front) (h' : line.Closes header' block' front) :
      ¬ header :: block <:+ block' := by
    intro hsuffix
    have hdeep := h'.block header (hsuffix.subset List.mem_cons_self)
    have hsame := h.header
    omega
  rcases List.suffix_or_suffix_of_suffix h.behind h'.behind with hsuffix | hsuffix
  · rcases List.suffix_cons_iff.1 hsuffix with heq | hinner
    · exact List.cons_eq_cons.1 heq
    · exact absurd hinner (hnot h h')
  · rcases List.suffix_cons_iff.1 hsuffix with heq | hinner
    · exact (List.cons_eq_cons.1 heq).imp Eq.symm Eq.symm
    · exact absurd hinner (hnot h' h)

/-- Indented lines close the same blocks, also with more lines in front. -/
theorem Closes.indented (h : line.Closes header block front) (depth : Nat) (hline : line ≠ [])
    (hfront : ∀ other ∈ front, other ≠ []) (more : List Text) :
    (Text.indented (Statement.indentationOf depth) line).Closes
      (Text.indented (Statement.indentationOf depth) header)
      (block.map (Text.indented (Statement.indentationOf depth)))
      (more ++ front.map (Text.indented (Statement.indentationOf depth))) := by
  have hne : ∀ other ∈ header :: block, other ≠ [] :=
    fun other hother => hfront other (h.behind.subset hother)
  refine ⟨(h.behind.map _).trans (List.suffix_append _ _), ?_, List.forall_mem_map.2 ?_⟩
  · rw [leadingSpaces_indented depth (hne _ List.mem_cons_self), leadingSpaces_indented depth hline,
      h.header]
  · intro inner hinner
    rw [leadingSpaces_indented depth (hne _ (List.mem_cons_of_mem _ hinner)),
      leadingSpaces_indented depth hline]
    exact Nat.add_lt_add_left (h.block inner hinner) _

/-- A line in two parts of lines is in the first of them, or in the second and behind the first. -/
theorem concat_prefix_append {back : List Text} (h : front ++ [line] <+: lines ++ back) :
    front ++ [line] <+: lines ∨
      ∃ between, between ++ [line] <+: back ∧ front = lines ++ between := by
  induction lines generalizing front with
  | nil => exact .inr ⟨front, h, rfl⟩
  | cons first lines ih =>
    cases front with
    | nil =>
      obtain ⟨rfl, -⟩ := List.cons_prefix_cons.1 h
      exact .inl (List.cons_prefix_cons.2 ⟨rfl, List.nil_prefix⟩)
    | cons other front =>
      obtain ⟨rfl, hrest⟩ := List.cons_prefix_cons.1 h
      rcases ih hrest with hin | ⟨between, hin, rfl⟩
      · exact .inl (List.cons_prefix_cons.2 ⟨rfl, hin⟩)
      · exact .inr ⟨between, hin, rfl⟩

/-- A line of changed lines is the change of one. -/
theorem concat_prefix_map {change : Text → Text} (h : front ++ [line] <+: lines.map change) :
    ∃ front₀ line₀, front₀ ++ [line₀] <+: lines ∧ front = front₀.map change ∧
      line = change line₀ := by
  obtain ⟨all, hall, hmap⟩ := List.prefix_map_iff.1 h
  obtain ⟨front₀, last, rfl, hfront, hlast⟩ := List.map_eq_append_iff.1 hmap.symm
  obtain ⟨line₀, rfl, hline⟩ := List.map_eq_singleton_iff.1 hlast
  exact ⟨front₀, line₀, hall, hfront.symm, hline.symm⟩

end Text

/-! ## The code of actions -/

/-- What a line of an action's own code begins with: a comment, a page, or the function of
assertions. -/
def ownLeads : List Text := ["#", "pg", "expect("]

theorem pg_prefix_pageName (pageAlias : Text) : ("pg" : Text) <+: pageName pageAlias := by
  unfold pageName
  split
  · exact List.prefix_rfl
  · exact ⟨_, rfl⟩

/-- The lines of an action are comments, calls on a page, and assertions. -/
theorem Event.exists_ownLead {event : Event} {own : Snippet}
    (h : event.actionSnippet.result = .ok own) :
    ∀ line ∈ own.lines, ∃ lead ∈ ownLeads, lead <+: line := by
  have hcomment (comment : Text) : ∃ lead ∈ ownLeads, lead <+: (Statement.comment comment).line :=
    ⟨"#", by decide, _, rfl⟩
  have hcall {lead : Text} (hlead : lead ∈ ownLeads) {target : Expression}
      (ht : lead <+: target.print) (method : Text) (arguments : List Expression)
      (keywords : List (Text × Expression)) : ∃ lead ∈ ownLeads,
        lead <+: (Statement.expression (.call (.member target method) arguments keywords)).line :=
    ⟨lead, hlead, ht.trans ((target.print_prefix_member method).trans
      (Expression.print_prefix_call _ _ _))⟩
  have hpage : ("pg" : Text) <+: (Expression.name event.page).print :=
    pg_prefix_pageName event.pageAlias
  -- an action on a page, one on a target, and an assertion
  rcases actionSnippet_eq_ok_iff.1 h with ⟨action, hname, rfl⟩ | ⟨action, locator, hname, -, rfl⟩ |
    ⟨action, locator, hname, -, rfl⟩
  · cases action with
    | openPage =>
      have hopen : event.name = ("openPage" : Text) := by
        simpa [Action.names] using Action.mem_names hname
      rcases statements_openPage hopen with ⟨-, hs⟩ | ⟨-, url, hs⟩
      · rw [hs]
        exact List.forall_mem_singleton.2 (hcomment _)
      · rw [hs]
        exact List.forall_mem_cons.2
          ⟨hcomment _, List.forall_mem_singleton.2 (hcall (by decide) hpage _ _ _)⟩
    | closePage => exact List.forall_mem_singleton.2 (hcall (by decide) hpage _ _ _)
    | navigate => exact List.forall_mem_singleton.2 (hcall (by decide) hpage _ _ _)
  · obtain ⟨method, -, arguments, keywords, hexpression⟩ :=
      action.exists_call event (locator.expression event.root)
    have htarget := (hpage.trans (Expression.print_prefix_inFrames _ event.framePath)).trans
      (locator.print_prefix_expression event.root)
    rw [hexpression]
    exact List.forall_mem_singleton.2 (hcall (by decide) htarget _ _ _)
  · obtain ⟨_, ⟨method, arguments, keywords, hexpression, -⟩, -⟩ :=
      action.isCallOn_expression hname (locator.expression event.root)
    have htarget : ("expect(" : Text) <+: (expectation (locator.expression event.root)).print := by
      simp only [expectation, Expression.print, List.append_assoc]
      exact ⟨_, rfl⟩
    rw [hexpression]
    exact List.forall_mem_singleton.2 (hcall (by decide) htarget _ _ _)

namespace SignalResult

variable {result : SignalResult} {line lead : Text}

/-- Such a line neither binds a variable nor reads one. -/
theorem not_binds_and_not_reads (hr : result ∈ all) (hlead : lead ∈ ownLeads)
    (h : lead <+: line) : line ≠ [] ∧ ¬ result.Binds line ∧ ¬ result.Reads line := by
  have hleads : ∀ lead ∈ ownLeads, ∃ p rest, lead = p :: rest ∧ p ≠ .char ' ' := by
    unfold ownLeads
    simp only [List.forall_mem_cons]
    exact ⟨⟨_, _, rfl, by decide⟩, ⟨_, _, rfl, by decide⟩, ⟨_, _, rfl, by decide⟩,
      List.forall_mem_nil _⟩
  have hwith : ∀ lead ∈ ownLeads, ¬ lead <+: ("with " : Text) ∧ ¬ ("with " : Text) <+: lead := by
    decide +kernel
  have hreading : ∀ result ∈ all, ∀ lead ∈ ownLeads, ¬ lead <+: result.reading := by
    unfold all ownLeads
    decide +kernel
  obtain ⟨p, rest, rfl, hp⟩ := hleads lead hlead
  have hsame := Text.unindented_of_prefix hp h
  refine ⟨?_, ?_, ?_⟩
  · rintro rfl
    cases List.prefix_nil.1 h
  · rintro ⟨hbegin, -⟩
    rw [hsame] at hbegin
    rcases List.prefix_or_prefix_of_prefix h hbegin with hp | hp
    · exact (hwith _ hlead).1 hp
    · exact (hwith _ hlead).2 hp
  · intro hreads
    rw [Reads, hsame] at hreads
    exact hreading result hr _ hlead (hreads ▸ h)

/-! ## The lines of signals -/

theorem binds_indented (depth : Nat) :
    result.Binds (Text.indented (Statement.indentationOf depth) line) ↔ result.Binds line := by
  rw [Binds, Binds, Text.unindented_indented]

theorem reads_indented (depth : Nat) :
    result.Reads (Text.indented (Statement.indentationOf depth) line) ↔ result.Reads line := by
  rw [Reads, Reads, Text.unindented_indented]

/-- The line of a signal in front of an action binds the variable of the signal's own result, and
reads no result. -/
theorem openingLine_binds_iff (hr : result ∈ all) (pageAlias : Text) (kind : SignalKind) :
    (result.Binds (kind.openingLine (pageName pageAlias)) ↔ kind = result.kind) ∧
      ¬ result.Reads (kind.openingLine (pageName pageAlias)) := by
  by_cases hk : kind = .dialog
  · subst hk
    have hkinds : ∀ result ∈ all, SignalKind.dialog ≠ result.kind := by decide
    obtain ⟨-, hbinds, hreads⟩ := not_binds_and_not_reads hr
      (show ("pg" : Text) ∈ ownLeads by decide)
      ((pg_prefix_pageName pageAlias).trans (List.prefix_append _ _))
    exact ⟨iff_of_false hbinds (hkinds result hr), hreads⟩
  · have hsuffix : ∀ result ∈ all, ∀ kind ∈ [SignalKind.popup, .download],
        ¬ kind.behindPage <:+ result.binding ∧
          (result.binding <:+ kind.behindPage ↔ kind = result.kind) := by
      unfold all
      decide +kernel
    have hblock : kind ∈ [SignalKind.popup, .download] := by
      cases kind with
      | dialog => exact absurd rfl hk
      | popup | download => decide
    have hreading : ∀ result ∈ all, ¬ ("with " : Text) <+: result.reading := by
      unfold all
      decide +kernel
    obtain ⟨hnot, hbinding⟩ := hsuffix result hr kind hblock
    have hline := SignalKind.openingLine_of_ne hk (pageName pageAlias)
    have hbegin : ("with " : Text) <+: kind.openingLine (pageName pageAlias) := ⟨_, hline.symm⟩
    have hend : kind.behindPage <:+ kind.openingLine (pageName pageAlias) := by
      rw [hline]
      exact (List.suffix_append _ _).trans ((List.suffix_cons _ _).trans (List.suffix_append _ _))
    have hsame := Text.unindented_of_prefix (by decide) hbegin
    rw [Binds, Reads, hsame, ← hbinding]
    refine ⟨⟨fun ⟨_, hbinds⟩ => ?_, fun hbinds => ⟨hbegin, hbinds.trans hend⟩⟩, ?_⟩
    · exact (List.suffix_or_suffix_of_suffix hbinds hend).resolve_right hnot
    · intro hreads
      exact hreading result hr (hreads ▸ hbegin)

/-- Behind its block a signal reads its own result once. -/
theorem countP_closingLines (hr : result ∈ all) (kind : SignalKind) :
    kind.closingLines.countP (result.Binds ·) = 0 ∧
      kind.closingLines.countP (result.Reads ·) = if kind = result.kind then 1 else 0 := by
  have hcount : ∀ result ∈ all, ∀ kind ∈ [SignalKind.dialog, .popup, .download],
      kind.closingLines.countP (result.Binds ·) = 0 ∧
        kind.closingLines.countP (result.Reads ·) = if kind = result.kind then 1 else 0 := by
    unfold all
    decide +kernel
  exact hcount result hr kind (by cases kind <;> decide)

/-- Signals of a kind with a result have one header each that binds its variable, and one line that
reads it. -/
theorem countP_surroundedAll (hr : result ∈ all) {snippet : Snippet}
    (hown : ∀ line ∈ snippet.lines, ¬ result.Binds line ∧ ¬ result.Reads line) (pageAlias : Text)
    (outer : List SignalKind) :
    let lines := (snippet.surroundedAll (pageName pageAlias) outer.reverse).lines
    lines.countP (result.Binds ·) = outer.count result.kind ∧
      lines.countP (result.Reads ·) = outer.count result.kind := by
  induction outer with
  | nil =>
    refine ⟨List.countP_eq_zero.2 fun line hline => ?_, List.countP_eq_zero.2 fun line hline => ?_⟩
    · simpa using (hown line hline).1
    · simpa using (hown line hline).2
  | cons kind inner ih =>
    obtain ⟨hbinds, hreads⟩ := ih
    obtain ⟨hopening, hnot⟩ := openingLine_binds_iff hr pageAlias kind
    obtain ⟨hnone, hone⟩ := countP_closingLines hr kind
    dsimp only
    rw [Snippet.surroundedAll_cons_reverse, Snippet.lines_surrounded_eq]
    simp only [List.countP_cons, List.countP_append, List.countP_map, Function.comp_def,
      binds_indented, reads_indented, hbinds, hreads, hopening, hnone, hone, hnot, List.count_cons]
    simp

/-! ## Each line and its header -/

theorem exists_openingLine_eq_cons (pageAlias : Text) (kind : SignalKind) :
    ∃ p rest, kind.openingLine (pageName pageAlias) = p :: rest ∧ p ≠ .char ' ' := by
  cases kind with
  | dialog =>
    obtain ⟨rest, hpage⟩ := pg_prefix_pageName pageAlias
    rw [SignalKind.openingLine, ← hpage]
    exact ⟨_, _, rfl, by decide⟩
  | popup | download => exact ⟨_, _, rfl, by decide⟩

theorem ne_nil_of_mem_surrounded {snippet : Snippet} (hne : ∀ line ∈ snippet.lines, line ≠ [])
    (pageAlias : Text) (kind : SignalKind) :
    ∀ line ∈ (snippet.surrounded (pageName pageAlias) kind).lines, line ≠ [] := by
  have hclosing : ∀ line ∈ kind.closingLines, line ≠ [] := by cases kind <;> decide +kernel
  obtain ⟨p, rest, hopening, -⟩ := exists_openingLine_eq_cons pageAlias kind
  rw [Snippet.lines_surrounded_eq, hopening, List.forall_mem_cons, List.forall_mem_append,
    List.forall_mem_map]
  refine ⟨List.cons_ne_nil _ _, fun line hline => ?_, hclosing⟩
  rw [Text.indented_of_ne_nil _ (hne line hline)]
  exact List.append_ne_nil_of_right_ne_nil _ (hne line hline)

/-- A line around an action is the one that a signal has in front, one of those inside, or one that
the signal has behind. -/
theorem concat_prefix_surrounded {snippet : Snippet} {page : Text} {kind : SignalKind}
    {front : List Text} (h : front ++ [line] <+: (snippet.surrounded page kind).lines) :
    line = kind.openingLine page ∨
      (∃ inside line₀, inside ++ [line₀] <+: snippet.lines ∧
        front = [kind.openingLine page] ++
          inside.map (Text.indented (Statement.indentationOf kind.blocks)) ∧
        line = Text.indented (Statement.indentationOf kind.blocks) line₀) ∨
      ∃ between, between ++ [line] <+: kind.closingLines ∧
        front = kind.openingLine page ::
          snippet.lines.map (Text.indented (Statement.indentationOf kind.blocks)) ++ between := by
  rw [Snippet.lines_surrounded_eq, ← List.cons_append] at h
  rcases Text.concat_prefix_append h with hin | hbehind
  · have hin : front ++ [line] <+: [kind.openingLine page] ++
        snippet.lines.map (Text.indented (Statement.indentationOf kind.blocks)) := hin
    rcases Text.concat_prefix_append hin with hfirst | ⟨between, hbetween, rfl⟩
    · exact .inl (List.mem_singleton.1
        (hfirst.subset (List.mem_append_right _ (List.mem_singleton_self line))))
    · obtain ⟨inside, line₀, hinside, rfl, rfl⟩ := Text.concat_prefix_map hbetween
      exact .inr (.inl ⟨inside, line₀, hinside, rfl, rfl⟩)
  · exact .inr (.inr hbehind)

/-- A signal reads its result in the first line behind its block. -/
theorem closingLines_reads (hr : result ∈ all) {kind : SignalKind} {front : List Text}
    (h : front ++ [line] <+: kind.closingLines) (hreads : result.Reads line) :
    front = [] ∧ kind = result.kind ∧ kind.blocks = 1 ∧ line.leadingSpaces = 0 := by
  have hone : 0 < kind.closingLines.countP (result.Reads ·) :=
    List.countP_pos_iff.2 ⟨line, h.subset (List.mem_append_right _ List.mem_cons_self),
      decide_eq_true hreads⟩
  rw [(countP_closingLines hr kind).2] at hone
  have hkind : kind = result.kind := of_not_not fun hne => by simp [if_neg hne] at hone
  obtain ⟨first, comment, hlines, hblocks, hspaces⟩ : ∃ first comment : Text,
      kind.closingLines = [first, (Statement.comment comment).line] ∧ kind.blocks = 1 ∧
        first.leadingSpaces = 0 := by
    cases kind with
    | dialog =>
      have hkinds : ∀ result ∈ all, SignalKind.dialog ≠ result.kind := by decide
      exact absurd hkind (hkinds result hr)
    | popup | download => exact ⟨_, _, rfl, rfl, by decide +kernel⟩
  rw [hlines] at h
  cases front with
  | nil =>
    obtain ⟨rfl, -⟩ := List.cons_prefix_cons.1 h
    exact ⟨rfl, hkind, hblocks, hspaces⟩
  | cons other front =>
    have hmem := (List.cons_prefix_cons.1 h).2.subset
      (List.mem_append_right front (List.mem_singleton_self line))
    rw [List.mem_singleton.1 hmem] at hreads
    have hmark : ("#" : Text) ∈ ownLeads := by decide
    exact absurd hreads (not_binds_and_not_reads hr hmark ⟨_, rfl⟩).2.2

/-- What holds of the results inside a signal holds of those around it. -/
theorem IsOwnWhereFirst.surrounded (hr : result ∈ all) {snippet : Snippet}
    (hne : ∀ line ∈ snippet.lines, line ≠ [])
    (hsame : (∀ line ∈ snippet.lines, ¬ result.Binds line) ↔
      ∀ line ∈ snippet.lines, ¬ result.Reads line)
    (h : result.IsOwnWhereFirst snippet.lines) (pageAlias : Text) (kind : SignalKind) :
    result.IsOwnWhereFirst (snippet.surrounded (pageName pageAlias) kind).lines := by
  intro front line hline hreads
  obtain ⟨hopening, hnot⟩ := openingLine_binds_iff hr pageAlias kind
  rcases concat_prefix_surrounded hline with rfl | ⟨inside, line, hin, rfl, rfl⟩ |
    ⟨between, hin, rfl⟩
  · exact absurd hreads hnot
  · -- The line has the same block as without the signal.
    rw [reads_indented] at hreads
    obtain ⟨header, block, hcloses, hbinds, hiff⟩ := h inside line hin hreads
    have hlines : ∀ other ∈ inside ++ [line], other ≠ [] :=
      fun other hother => hne other (hin.subset hother)
    obtain ⟨hinside, hself⟩ := List.forall_mem_append.1 hlines
    refine ⟨_, _, hcloses.indented _ (hself _ (List.mem_singleton_self line)) hinside _,
      (binds_indented _).2 hbinds, ?_⟩
    simp only [List.forall_mem_append, List.forall_mem_singleton, List.forall_mem_map,
      binds_indented, reads_indented, hiff, hnot, not_false_eq_true, true_and]
  · -- The lines inside are the block of the signal, and no result of the signal is read in it
    -- exactly if none is bound.
    obtain ⟨rfl, hkind, hblocks, hspaces⟩ := closingLines_reads hr hin hreads
    obtain ⟨p, rest, hcons, hp⟩ := exists_openingLine_eq_cons pageAlias kind
    have hheader : (kind.openingLine (pageName pageAlias)).leadingSpaces = 0 := by
      rw [hcons, Text.leadingSpaces, List.takeWhile_cons_of_neg (by simpa using hp)]
      rfl
    rw [List.append_nil]
    refine ⟨_, _, ⟨List.suffix_rfl, hheader.trans hspaces.symm, ?_⟩, hopening.2 hkind, ?_⟩
    · refine List.forall_mem_map.2 fun inner hinner => ?_
      rw [Text.leadingSpaces_indented _ (hne inner hinner), hblocks, hspaces]
      omega
    · simp only [List.forall_mem_cons, List.forall_mem_map, binds_indented, reads_indented, hsame,
        hnot, not_false_eq_true, true_and]

/-- A line that reads a result of a signal around an action finds what its own block bound exactly
if it is the first one to read the variable. -/
theorem isOwnWhereFirst_surroundedAll (hr : result ∈ all) {own : Snippet}
    (hown : ∀ line ∈ own.lines, line ≠ [] ∧ ¬ result.Binds line ∧ ¬ result.Reads line)
    (pageAlias : Text) (outer : List SignalKind) :
    result.IsOwnWhereFirst (own.surroundedAll (pageName pageAlias) outer.reverse).lines := by
  have hquiet : ∀ line ∈ own.lines, ¬ result.Binds line ∧ ¬ result.Reads line :=
    fun line hline => (hown line hline).2
  have hne (kinds : List SignalKind) :
      ∀ line ∈ (own.surroundedAll (pageName pageAlias) kinds).lines, line ≠ [] :=
    Snippet.surroundedAll_induction (P := fun around => ∀ line ∈ around.lines, line ≠ [])
      (fun line hline => (hown line hline).1)
      fun _ kind hne => ne_nil_of_mem_surrounded hne pageAlias kind
  induction outer with
  | nil =>
    intro front line hline hreads
    exact absurd hreads (hown line (hline.subset
      (List.mem_append_right _ (List.mem_singleton_self line)))).2.2
  | cons kind inner ih =>
    obtain ⟨hbinds, hreads⟩ := countP_surroundedAll hr hquiet pageAlias inner
    rw [Snippet.surroundedAll_cons_reverse]
    refine ih.surrounded hr (hne _) ?_ pageAlias kind
    have hsame := hbinds.trans hreads.symm
    have hzero := iff_of_eq (congrArg (· = 0) hsame)
    simpa only [List.countP_eq_zero, decide_eq_true_eq] using hzero

/-- Not more than one line reads a result exactly if no line that reads it has another one in
front. -/
theorem countP_reads_le_one_iff (result : SignalResult) (lines : List Text) :
    lines.countP (result.Reads ·) ≤ 1 ↔ ∀ front line, front ++ [line] <+: lines →
      result.Reads line → ∀ other ∈ front, ¬ result.Reads other := by
  constructor
  · intro hcount front line hline hreads other hother hother'
    have hle := hline.sublist.countP_le (p := (result.Reads ·))
    have hfront : 0 < front.countP (result.Reads ·) :=
      List.countP_pos_iff.2 ⟨other, hother, decide_eq_true hother'⟩
    rw [List.countP_append, List.countP_singleton, if_pos (decide_eq_true hreads)] at hle
    omega
  · intro h
    induction lines using List.reverseRecOn with
    | nil => exact Nat.zero_le 1
    | append_singleton lines line ih =>
      rw [List.countP_append, List.countP_singleton]
      by_cases hreads : result.Reads line
      · have hzero : lines.countP (result.Reads ·) = 0 := by
          simpa only [List.countP_eq_zero, decide_eq_true_eq] using
            h lines line List.prefix_rfl hreads
        rw [hzero, if_pos (decide_eq_true hreads)]
      · rw [if_neg (by simpa using hreads)]
        exact ih fun front line' hline => h front line' (hline.trans (List.prefix_append _ _))

/-- Where lines find what their own blocks bound only if they are the first to read it, all do so
exactly if there are not two. -/
theorem IsOwnWhereFirst.areOwn_iff {lines : List Text} (h : result.IsOwnWhereFirst lines) :
    result.AreOwn lines ↔ lines.countP (result.Reads ·) ≤ 1 := by
  rw [countP_reads_le_one_iff]
  constructor
  · intro hown front line hline hreads
    obtain ⟨header, block, hcloses, -, hiff⟩ := h front line hline hreads
    obtain ⟨_, _, hcloses', -, hnot⟩ := hown front line hline hreads
    obtain ⟨-, rfl⟩ := hcloses.unique hcloses'
    exact hiff.1 hnot
  · intro hfirst front line hline hreads
    obtain ⟨header, block, hcloses, hbinds, hiff⟩ := h front line hline hreads
    exact ⟨header, block, hcloses, hbinds, hiff.2 (hfirst front line hline hreads)⟩

end SignalResult

/-! ## Actions with signals -/

theorem SignalKind.name_injective : Function.Injective name := by
  intro kind kind'
  cases kind <;> cases kind' <;> decide

/-- Around the code of an action every popup and every download binds the variable of its kind in
one header, and reads it in one line behind its block. The first line that reads the variable finds
the result of its own block and any other one that of a block further inside, so all results are
their blocks' own exactly if neither popups nor downloads come twice. -/
theorem Event.areOwn_results_iff {event : Event} {own : Snippet}
    (h : event.actionSnippet.result = .ok own) (pageAlias : Text) (record : Json.Members)
    {names : List Text} (hnames : ∀ name ∈ names, name ∈ SignalKind.names.map Prod.fst) :
    ∃ snippet, own.surroundAll (pageName pageAlias) record names = .ok snippet ∧
      ∀ result ∈ SignalResult.all,
        snippet.lines.countP (result.Binds ·) = names.count result.kind.name ∧
        snippet.lines.countP (result.Reads ·) = names.count result.kind.name ∧
        result.IsOwnWhereFirst snippet.lines ∧
        (result.AreOwn snippet.lines ↔ names.count result.kind.name ≤ 1) := by
  obtain ⟨snippet, hsnippet⟩ := Snippet.exists_surroundAll_iff.2 hnames
  obtain ⟨kinds, hkinds, rfl⟩ := Snippet.surroundAll_eq_ok_iff.1 hsnippet
  have hkindNames := SignalKind.eq_map_name hkinds
  refine ⟨_, hsnippet, fun result hr => ?_⟩
  have hown : ∀ line ∈ own.lines, line ≠ [] ∧ ¬ result.Binds line ∧ ¬ result.Reads line := by
    intro line hline
    obtain ⟨lead, hlead, hprefix⟩ := exists_ownLead h line hline
    exact SignalResult.not_binds_and_not_reads hr hlead hprefix
  have hcount : kinds.reverse.count result.kind = names.count result.kind.name := by
    rw [hkindNames, List.count_reverse,
      List.count_map_of_injective kinds SignalKind.name SignalKind.name_injective]
  have hfirst := SignalResult.isOwnWhereFirst_surroundedAll hr hown pageAlias kinds.reverse
  obtain ⟨hbinds, hreads⟩ := SignalResult.countP_surroundedAll hr
    (fun line hline => (hown line hline).2) pageAlias kinds.reverse
  rw [List.reverse_reverse, hcount] at hbinds hreads
  rw [List.reverse_reverse] at hfirst
  refine ⟨hbinds, hreads, hfirst, ?_⟩
  rw [hfirst.areOwn_iff, hreads]

/-- A page that is closed opens another one and starts a download, and there is a dialog. -/
theorem Event.areOwn_results_closing :
    ∃ own snippet, (closing none).actionSnippet.result = .ok own ∧
      own.surroundAll (pageName []) [] ["popup", "dialog", "download"] = .ok snippet ∧
      ∀ result ∈ SignalResult.all, snippet.lines.countP (result.Reads ·) = 1 ∧
        result.AreOwn snippet.lines := by
  have hown : (closing none).actionSnippet.result =
      .ok (.ofStatements [.expression ((Expression.name "pg").invoke "close" [])] []) := rfl
  have hnames : ∀ name ∈ (["popup", "dialog", "download"] : List Text),
      name ∈ SignalKind.names.map Prod.fst := by decide
  have hcount : ∀ result ∈ SignalResult.all,
      (["popup", "dialog", "download"] : List Text).count result.kind.name = 1 := by decide
  obtain ⟨snippet, hsnippet, hresults⟩ := areOwn_results_iff hown [] [] hnames
  refine ⟨_, snippet, hown, hsnippet, fun result hr => ?_⟩
  obtain ⟨-, hreads, -, hiff⟩ := hresults result hr
  rw [hcount result hr] at hreads hiff
  exact ⟨hreads, hiff.2 (Nat.le_refl 1)⟩

/-- It opens two pages: the outer block reads what the inner one bound. -/
theorem Event.not_areOwn_results_popups :
    ∃ own snippet, (closing none).actionSnippet.result = .ok own ∧
      own.surroundAll (pageName []) [] ["popup", "popup"] = .ok snippet ∧
      ∃ result ∈ SignalResult.all, ¬ result.AreOwn snippet.lines := by
  let own : Snippet := .ofStatements [.expression ((Expression.name "pg").invoke "close" [])] []
  let popup : SignalResult := ⟨.popup, "popup_pg", "popup_info"⟩
  have hquiet : ∀ line ∈ own.lines, line ≠ [] ∧ ¬ popup.Binds line ∧ ¬ popup.Reads line := by
    decide +kernel
  have hfirst := SignalResult.isOwnWhereFirst_surroundedAll List.mem_cons_self hquiet []
    [.popup, .popup]
  refine ⟨own, own.surroundedAll (pageName []) [.popup, .popup], rfl, rfl, popup,
    List.mem_cons_self, fun hown => ?_⟩
  exact absurd (hfirst.areOwn_iff.1 hown) (by decide +kernel)

end Playback
