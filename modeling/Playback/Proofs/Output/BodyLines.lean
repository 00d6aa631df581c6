import Playback.Proofs.Layout.Program

/-!
# The lines of a body

* `Text.IsBodyLine`: a comment or a statement that does something, inside any number of blocks.
* `Event.hasBodyLines`: a snippet has at least one line, and all its lines are of this kind.
* `Text.isCommentLine`: is a line a comment? `Text.IsBodyLine.isStatementLine_eq`: a body line is
  either a comment or a statement.
* `Snippet.isBodyLine_of_mem_linesOf`: the lines that events give are of this kind.
-/

namespace Playback

/-- Is the line a comment, behind any spaces? -/
def Text.isCommentLine (line : Text) : Bool :=
  (line.dropWhile (· == .char ' ')).head? == some (.char '#')

/-- The line is a comment, or a statement other than the one that does nothing. It stands inside any
number of blocks. -/
def Text.IsBodyLine (line : Text) : Prop :=
  ∃ depth inner, line = Text.indented (Statement.indentationOf depth) inner ∧
    (inner.IsComment ∨ inner.BeginsWithLetter ∧ inner ≠ Statement.pass.line)

/-- A letter is not blank. -/
theorem CodePoint.isBlank_of_isAsciiLetter {p : CodePoint} (h : p.isAsciiLetter) :
    p.isBlank = false := by
  rcases p with c | half
  · have hn : (char c).toNat = c.toNat := rfl
    have hrange : 65 ≤ c.toNat ∧ c.toNat ≤ 122 := by
      simp only [isAsciiLetter, Bool.or_eq_true, Bool.and_eq_true, decide_eq_true_eq,
        Char.le_def, UInt32.le_iff_toNat_le] at h
      rcases h with ⟨hlow, hhigh⟩ | ⟨hlow, hhigh⟩
      · exact ⟨Nat.le_trans (by decide) hlow, Nat.le_trans hhigh (by decide)⟩
      · exact ⟨Nat.le_trans (by decide) hlow, Nat.le_trans hhigh (by decide)⟩
    simp only [isBlank, isWhiteSpace, hn, Bool.or_eq_false_iff, Bool.and_eq_false_iff,
      decide_eq_false_iff_not, beq_eq_false_iff_ne]
    omega
  · cases h

namespace Text

variable {line : Text}

theorem IsComment.isBodyLine (h : IsComment line) : IsBodyLine line :=
  ⟨0, line, (indented_zero line).symm, .inl h⟩

theorem BeginsWithLetter.isBodyLine (h : BeginsWithLetter line)
    (hpass : line ≠ Statement.pass.line) : IsBodyLine line :=
  ⟨0, line, (indented_zero line).symm, .inr ⟨h, hpass⟩⟩

theorem IsHeader.isBodyLine (h : IsHeader line) : IsBodyLine line := by
  refine h.beginsWithLetter.isBodyLine ?_
  rintro rfl
  exact absurd h.isHeaderLine (by decide)

/-- A body line stays one inside a block. -/
theorem IsBodyLine.nested (h : IsBodyLine line) :
    IsBodyLine (indented Statement.indentation line) := by
  obtain ⟨depth, inner, rfl, hinner⟩ := h
  exact ⟨1 + depth, inner, indented_indentationOf 1 depth inner, hinner⟩

/-- What a body line is behind its spaces. -/
theorem IsBodyLine.exists_eq (h : IsBodyLine line) : ∃ n p rest,
    line = List.replicate n (.char ' ') ++ p :: rest ∧ (p = .char '#' ∨ p.isAsciiLetter) := by
  obtain ⟨depth, inner, rfl, hinner⟩ := h
  have hspaces (p : CodePoint) (rest : Text) :
      indented (Statement.indentationOf depth) (p :: rest) =
        List.replicate (4 * depth) (.char ' ') ++ p :: rest := by
    rw [indented_of_ne_nil _ (List.cons_ne_nil p rest), Statement.indentationOf_eq]
  rcases hinner with ⟨rest, rfl⟩ | ⟨⟨p, rest, rfl, hp⟩, -⟩
  · exact ⟨4 * depth, _, rest, hspaces _ rest, .inl rfl⟩
  · exact ⟨4 * depth, p, rest, hspaces p rest, .inr hp⟩

theorem IsBodyLine.ne_nil (h : IsBodyLine line) : line ≠ [] := by
  obtain ⟨n, p, rest, rfl, -⟩ := h.exists_eq
  simp

/-- No body line is the statement that does nothing. -/
theorem IsBodyLine.ne_pass (h : IsBodyLine line) : line ≠ Statement.pass.line := by
  obtain ⟨depth, inner, rfl, hinner⟩ := h
  intro hline
  rcases hinner with hcomment | ⟨hletter, hpass⟩
  · have hskipped := isSkipped_comment hcomment depth
    rw [hline] at hskipped
    revert hskipped
    decide
  · have hspaces := leadingSpaces_letter hletter depth
    have hnone : leadingSpaces Statement.pass.line = 0 := by decide
    rw [hline, hnone] at hspaces
    obtain rfl : depth = 0 := by omega
    rw [indented_zero] at hline
    exact hpass hline

/-- A body line is a comment, or else a statement. -/
theorem IsBodyLine.isStatementLine_eq (h : IsBodyLine line) :
    line.isStatementLine = !line.isCommentLine := by
  obtain ⟨n, p, rest, rfl, hp⟩ := h.exists_eq
  have hblank : p.isBlank = false := by
    rcases hp with rfl | hp
    · decide
    · exact CodePoint.isBlank_of_isAsciiLetter hp
  have hspace : (p == .char ' ') = false := by
    refine beq_eq_false_iff_ne.2 ?_
    rintro rfl
    revert hblank
    decide
  have hfront {skip : CodePoint → Bool} (hclass : skip (.char ' ')) (hp : skip p = false) :
      (List.replicate n (CodePoint.char ' ') ++ p :: rest).dropWhile skip = p :: rest := by
    rw [List.dropWhile_append_of_pos, List.dropWhile_cons_of_neg (by simp [hp])]
    intro q hq
    rw [List.eq_of_mem_replicate hq]
    exact hclass
  have hsome : isBlank (List.replicate n (CodePoint.char ' ') ++ p :: rest) = false :=
    List.all_eq_false.2 ⟨p, by simp, by simp [hblank]⟩
  rw [isStatementLine, hsome, hfront (by decide) hblank, isCommentLine, hfront rfl hspace]
  rfl

end Text

/-- A call is no statement that does nothing: it ends in a bracket. -/
theorem Expression.IsCallOn.isBodyLine {e receiver : Expression} {texts : List Text}
    (h : e.IsCallOn receiver texts) (hr : receiver.print.BeginsWithLetter) :
    (Statement.expression e).line.IsBodyLine := by
  refine (h.isSimple_print hr).beginsWithLetter.isBodyLine ?_
  obtain ⟨method, arguments, keywords, rfl, -⟩ := h
  intro hpass
  have hlast := congrArg List.getLast? hpass
  rw [Statement.line, Expression.print, List.getLast?_append] at hlast
  have hbracket : some (CodePoint.char ')') = Statement.pass.line.getLast? := hlast
  revert hbracket
  decide

/-- The snippet has lines, and all of them are body lines. -/
def Snippet.HasBodyLines (snippet : Snippet) : Prop :=
  snippet.lines ≠ [] ∧ ∀ line ∈ snippet.lines, line.IsBodyLine

namespace Snippet

variable {snippet : Snippet} {page : Text}

theorem HasBodyLines.surrounded (h : snippet.HasBodyLines) (hp : page.BeginsWithLetter)
    (kind : SignalKind) : (snippet.surrounded page kind).HasBodyLines := by
  have hscope {method info name comment : Text}
      (hbinding : (Statement.assignment name (.member (.name info) "value")).line.IsBodyLine) :
      (snippet.inScope page method info name comment).HasBodyLines := by
    refine ⟨by simp [Snippet.inScope], fun line hline => ?_⟩
    simp only [Snippet.inScope, List.mem_append, List.mem_cons, List.not_mem_nil, or_false]
      at hline
    rcases hline with (rfl | hline) | rfl | rfl
    · exact (Statement.isHeader_scope _ info).isBodyLine
    · obtain ⟨inner, hinner, rfl⟩ := List.mem_map.1 hline
      exact (h.2 inner hinner).nested
    · exact hbinding
    · exact Text.IsComment.isBodyLine ⟨_, rfl⟩
  cases kind with
  | dialog =>
    obtain ⟨e, he, hcall⟩ := isCallOn_dialogHandler page
    refine ⟨List.cons_ne_nil _ _, List.forall_mem_cons.2 ⟨?_, h.2⟩⟩
    rw [he]
    exact hcall.isBodyLine hp
  | popup => exact hscope (Text.BeginsWithLetter.isBodyLine ⟨_, _, rfl, rfl⟩ (by decide))
  | download => exact hscope (Text.BeginsWithLetter.isBodyLine ⟨_, _, rfl, rfl⟩ (by decide))

end Snippet

namespace Event

variable {event : Event} {own snippet : Snippet}

/-- The code of an action. -/
theorem hasBodyLines_actionSnippet (h : event.actionSnippet.result = .ok own) :
    own.HasBodyLines := by
  have hcall {e receiver : Expression} {texts : List Text} (imports : List Import)
      (he : e.IsCallOn receiver texts) (hr : receiver.print.BeginsWithLetter) :
      (Snippet.ofStatements [.expression e] imports).HasBodyLines :=
    ⟨List.cons_ne_nil _ _, List.forall_mem_singleton.2 (he.isBodyLine hr)⟩
  have hpage := event.beginsWithLetter_page
  rcases actionSnippet_eq_ok_iff.1 h with ⟨action, hname, rfl⟩ | ⟨action, locator, hname, -, rfl⟩ |
    ⟨action, locator, hname, -, rfl⟩
  · have hcomment : (Statement.comment ("New page: " ++ event.page)).line.IsBodyLine :=
      Text.IsComment.isBodyLine ⟨_, rfl⟩
    have hgoto (url : Text) : ((Expression.name event.page).invoke "goto" [.text url]).IsCallOn
        (.name event.page) [url] := Expression.isCallOn_invoke (by decide) ⟨trivial, trivial⟩
    have hopened : (Snippet.ofStatements [.comment ("New page: " ++ event.page)] []).HasBodyLines :=
      ⟨List.cons_ne_nil _ _, List.forall_mem_singleton.2 hcomment⟩
    cases action with
    | openPage =>
      unfold PageAction.statements
      dsimp only
      split
      · next url _ =>
        split
        · exact hopened
        · refine ⟨List.cons_ne_nil _ _, List.forall_mem_cons.2 ⟨hcomment, ?_⟩⟩
          exact List.forall_mem_singleton.2 ((hgoto url).isBodyLine hpage)
      · exact hopened
    | closePage =>
      exact hcall [] (Expression.isCallOn_invoke (by decide) trivial) hpage
    | navigate =>
      exact hcall [] (Expression.isCallOn_invoke (by decide) ⟨trivial, trivial⟩) hpage
  · obtain ⟨texts, he, -⟩ := action.isCallOn_expression hname (locator.expression event.root)
    exact hcall [] he (event.beginsWithLetter_locator locator)
  · obtain ⟨texts, he, -⟩ := action.isCallOn_expression hname (locator.expression event.root)
    have hexpect : (Expression.name assertionImport.name).print.BeginsWithLetter :=
      ⟨_, _, rfl, rfl⟩
    exact hcall _ he (hexpect.mono (Expression.print_prefix_call _ _ _))

theorem hasBodyLines (h : event.snippet.result = .ok snippet) : snippet.HasBodyLines := by
  obtain ⟨own, kinds, hown, -, rfl⟩ := snippet_eq_ok_iff.1 h
  exact Snippet.surroundedAll_induction (P := Snippet.HasBodyLines)
    (hasBodyLines_actionSnippet hown)
    fun _ kind hs => hs.surrounded event.beginsWithLetter_page kind

end Event

namespace Snippet

variable {events : List Event} {snippets : List Snippet}

/-- The lines of a recording's body. -/
theorem isBodyLine_of_mem_linesOf (h : Event.HaveSnippets events snippets) :
    ∀ line ∈ linesOf snippets, line.IsBodyLine := by
  intro line hline
  obtain ⟨snippet, hs, hline⟩ := List.mem_flatMap.1 hline
  obtain ⟨event, -, hevent⟩ := h.exists_event hs
  exact (Event.hasBodyLines hevent).2 line hline

theorem not_mem_lineFeed_of_mem_linesOf (h : Event.HaveSnippets events snippets) :
    ∀ line ∈ linesOf snippets, .char '\n' ∉ line := by
  intro line hline
  obtain ⟨snippet, hs, hline⟩ := List.mem_flatMap.1 hline
  obtain ⟨event, -, hevent⟩ := h.exists_event hs
  obtain ⟨values, hv⟩ := Event.isCode_lines hevent line hline
  exact hv.not_mem_lineFeed

/-- Events have lines. -/
theorem linesOf_ne_nil (h : Event.HaveSnippets events snippets) (hne : events ≠ []) :
    linesOf snippets ≠ [] := by
  cases h with
  | nil => exact absurd rfl hne
  | cons hfirst hrest =>
    rw [linesOf, List.flatMap_cons]
    exact List.append_ne_nil_of_left_ne_nil (Event.hasBodyLines hfirst).1 _

end Snippet

end Playback
