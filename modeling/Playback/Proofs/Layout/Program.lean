import Playback.Proofs.Code.Program
import Playback.Proofs.Except
import Playback.Proofs.Layout.Snippet

/-!
# The layout of programs

* `Layout.isSolid_filledLines`, `Layout.isBroken_filledLines`: the actions of a program are accepted
  in their block, unless one of them has a broken snippet.
* `Layout.read_headers`: the headers of the blocks around the actions.
* `Import.isSimple_line`: the lines of the imports.
* `isLaidOut_programOf_iff`: the checker accepts a script or a test exactly if no event of the
  recording has an empty block.
-/

namespace Playback

namespace Layout

variable {lines front back : List Text}

/-! ## The actions -/

private theorem solid_or_comments_append
    (hf : IsSolid front ∨ ∀ line ∈ front, line.IsComment)
    (hb : IsSolid back ∨ ∀ line ∈ back, line.IsComment) :
    IsSolid (front ++ back) ∨ ∀ line ∈ front ++ back, line.IsComment := by
  rcases hf with hf | hf <;> rcases hb with hb | hb
  · exact .inl (hf.append hb)
  · exact .inl (hf.append_comments hb)
  · exact .inl (hb.comments_append hf)
  · exact .inr (List.forall_mem_append.2 ⟨hf, hb⟩)

private theorem isBroken_append (hf : IsSolid front ∨ ∀ line ∈ front, line.IsComment)
    (hb : IsBroken back) : IsBroken (front ++ back) := by
  rcases hf with hf | hf
  · exact hf.append_broken hb
  · intro depth outer layout ha
    rw [read_append, read_comments hf]
    exact hb ha

private theorem isSimple_pass : Statement.pass.line.IsSimple :=
  ⟨⟨_, _, rfl, rfl⟩, by decide⟩

private theorem isStatementLine_comment {line : Text} (h : line.IsComment) :
    line.isStatementLine = false := by
  obtain ⟨rest, rfl⟩ := h
  have hblank : CodePoint.isBlank (.char '#') = false := by decide
  simp [Text.isStatementLine, hblank]

/-- Comments, or accepted lines, are accepted with a statement behind them if they need one. -/
theorem isSolid_filledLines (h : IsSolid lines ∨ ∀ line ∈ lines, line.IsComment) :
    IsSolid (Snippet.filledLines lines) := by
  have hpass : IsSolid [Statement.pass.line] := isSolid_simple isSimple_pass
  unfold Snippet.filledLines
  split
  · next hany =>
    rcases h with h | h
    · exact h
    · obtain ⟨line, hline, hs⟩ := List.any_eq_true.1 hany
      rw [isStatementLine_comment (h line hline)] at hs
      cases hs
  · rcases h with h | h
    · exact h.append hpass
    · exact hpass.comments_append h

theorem isBroken_filledLines (h : IsBroken lines) : IsBroken (Snippet.filledLines lines) := by
  unfold Snippet.filledLines
  split
  · exact h
  · exact h.append _

/-- The lines of events without empty blocks. -/
theorem isSolid_linesOf {events : List Event} {snippets : List Snippet}
    (h : Event.HaveSnippets events snippets)
    (hempty : ∀ event ∈ events, ¬ event.HasEmptyBlock) :
    IsSolid (Snippet.linesOf snippets) ∨ ∀ line ∈ Snippet.linesOf snippets, line.IsComment := by
  induction h with
  | nil => exact .inr (by simp [Snippet.linesOf])
  | cons hs hrest ih =>
    obtain ⟨hfirst, hlater⟩ := List.forall_mem_cons.1 hempty
    exact solid_or_comments_append (Event.isSolid_lines hs hfirst) (ih hlater)

/-- The lines of events of which one has an empty block. -/
theorem isBroken_linesOf {events : List Event} {snippets : List Snippet}
    (h : Event.HaveSnippets events snippets)
    (hempty : ∃ event ∈ events, event.HasEmptyBlock) : IsBroken (Snippet.linesOf snippets) := by
  induction h with
  | nil => simp at hempty
  | @cons event snippet events snippets hs hrest ih =>
    rw [Snippet.linesOf, List.flatMap_cons]
    by_cases hfirst : event.HasEmptyBlock
    · exact (Event.isBroken_lines hs hfirst).append _
    · refine isBroken_append (Event.isSolid_lines hs hfirst) (ih ?_)
      rcases hempty with ⟨other, hother, he⟩
      rcases List.mem_cons.1 hother with rfl | hother
      · exact absurd he hfirst
      · exact ⟨other, hother, he⟩

/-! ## The blocks around them -/

/-- The headers of nested blocks, the first of which stands `inner` blocks deep in the block that
the lines are in, open all of these blocks. -/
theorem read_headers {statements : List Statement} (hs : ∀ s ∈ statements, s.line.IsHeader)
    {depth inner : Nat} {outer : List Nat} {layout : Layout}
    (ha : Admits (4 * (depth + inner)) outer layout) :
    ∃ layout' outer', layout.read depth ((statements.zipIdx inner).map fun (statement, inner) =>
        Statement.indentationOf inner ++ statement.line) = some layout' ∧
      Admits (4 * (depth + (inner + statements.length))) outer' layout' := by
  induction statements generalizing inner outer layout with
  | nil => exact ⟨layout, outer, rfl, ha⟩
  | cons statement statements ih =>
    obtain ⟨hfirst, hrest⟩ := List.forall_mem_cons.1 hs
    have hline : Text.indented (Statement.indentationOf depth)
        (Statement.indentationOf inner ++ statement.line) =
        Text.indented (Statement.indentationOf (depth + inner)) statement.line := by
      rw [← Text.indented_of_ne_nil _ hfirst.beginsWithLetter.ne_nil, Text.indented_indentationOf]
    have hopen : Admits (4 * (depth + (inner + 1))) (4 * (depth + inner) :: outer)
        ⟨4 * (depth + inner) :: outer, true⟩ := admits_block _ _
    obtain ⟨layout', outer', hread, hadmits⟩ := ih hrest hopen
    refine ⟨layout', outer', ?_, ?_⟩
    · rw [List.zipIdx_cons, List.map_cons, read_cons, hline,
        step_letter hfirst.beginsWithLetter ha, hfirst.isHeaderLine]
      exact hread
    · rw [List.length_cons, Nat.add_comm statements.length, ← Nat.add_assoc inner]
      exact hadmits

end Layout

namespace Header

open Layout

variable {header : Header} {depth : Nat} {outer : List Nat} {layout : Layout}
  {snippets : List Snippet}

theorem isHeader_scopes (header : Header) : ∀ s ∈ header.scopes, s.line.IsHeader := by
  unfold scopes
  simp only [List.forall_mem_cons, List.not_mem_nil, false_implies, implies_true, and_true]
  exact ⟨Statement.isHeader_scope .., Statement.isHeader_scope .., Statement.isHeader_scope ..,
    Statement.isHeader_scope ..⟩

private theorem foldlM_enclose (header : Header) (ha : Admits (4 * depth) outer layout)
    (snippets : List Snippet) : ∃ layout' outer',
      Admits (4 * (depth + header.scopes.length)) outer' layout' ∧
      (header.enclose depth snippets).foldlM step layout =
        layout'.read (depth + header.scopes.length)
          (Snippet.filledLines (Snippet.linesOf snippets)) := by
  have hzero : Admits (4 * (depth + 0)) outer layout := ha
  obtain ⟨layout', outer', hread, hadmits⟩ := read_headers header.isHeader_scopes hzero
  refine ⟨layout', outer', by simpa using hadmits, ?_⟩
  rw [enclose, List.foldlM_append]
  show (layout.read depth header.scopeLines).bind _ = _
  rw [scopeLines, hread]
  rfl

/-- The actions in their blocks are accepted if no event has an empty block. -/
theorem foldlM_enclose_eq_some {events : List Event}
    (h : Event.HaveSnippets events snippets)
    (header : Header) (ha : Admits (4 * depth) outer layout)
    (hempty : ∀ event ∈ events, ¬ event.HasEmptyBlock) :
    ∃ indents, (header.enclose depth snippets).foldlM step layout = some ⟨indents, false⟩ := by
  obtain ⟨layout', outer', hadmits, hread⟩ := foldlM_enclose header ha snippets
  rw [hread, isSolid_filledLines (isSolid_linesOf h hempty) hadmits]
  exact ⟨_, rfl⟩

/-- They are not accepted if one has. -/
theorem foldlM_enclose_eq_none {events : List Event}
    (h : Event.HaveSnippets events snippets)
    (header : Header) (ha : Admits (4 * depth) outer layout)
    (hempty : ∃ event ∈ events, event.HasEmptyBlock) :
    (header.enclose depth snippets).foldlM step layout = none := by
  obtain ⟨layout', outer', hadmits, hread⟩ := foldlM_enclose header ha snippets
  rw [hread]
  exact isBroken_filledLines (isBroken_linesOf h hempty) hadmits

end Header

/-! ## The lines above the blocks -/

namespace Import

open Layout

/-- The line of an import is a statement that is no header. -/
theorem isSimple_line {names : List Text}
    (h : ∀ name ∈ names, name = launchImport.name ∨ name = assertionImport.name) :
    (Statement.fromImport driverModule names).line.IsSimple := by
  refine ⟨⟨_, _, rfl, rfl⟩, ?_⟩
  have hcolon : .char ':' ∉ (Statement.fromImport driverModule names).line := by
    intro hmem
    rcases List.mem_append.1 hmem with hmem | hmem
    · revert hmem
      decide
    · rcases Text.mem_joined hmem with hmem | ⟨name, hname, hmem⟩
      · revert hmem
        decide
      · rcases h name hname with rfl | rfl <;> revert hmem <;> decide
  refine beq_eq_false_iff_ne.2 fun hlast => hcolon ?_
  exact List.mem_of_getLast? hlast

/-- Lines that are no headers stand next to each other outside all blocks. -/
theorem foldlM_importsOf {events : List Event} {snippets : List Snippet}
    (h : Event.HaveSnippets events snippets) :
    ((Snippet.importsOf snippets).map Statement.line).foldlM step .start = some .start := by
  have hsimple : ∀ line ∈ (Snippet.importsOf snippets).map Statement.line, Text.IsSimple line := by
    intro line hline
    obtain ⟨statement, hs, rfl⟩ := List.mem_map.1 hline
    obtain ⟨names, rfl, hnames⟩ := mem_importsOf h statement hs
    exact isSimple_line hnames
  revert hsimple
  generalize (Snippet.importsOf snippets).map Statement.line = lines
  intro hsimple
  induction lines with
  | nil => rfl
  | cons line lines ih =>
    obtain ⟨hline, hlines⟩ := List.forall_mem_cons.1 hsimple
    have hstep : Layout.start.step line = some .start := by
      have hadmits : Admits (4 * 0) [] .start := admits_self 0 []
      have := step_letter hline.beginsWithLetter hadmits
      rwa [Text.indented_zero, hline.isHeaderLine] at this
    rw [List.foldlM_cons, hstep]
    exact ih hlines

end Import

/-! ## Whole programs -/

section Programs

open Layout

/-- What the checker says about lines in one text. -/
theorem isLaidOut_ofLines {lines : List Text}
    (h : ∀ line ∈ lines, .char '\n' ∉ line) :
    (Text.ofLines lines).isLaidOut =
      (lines.foldlM step .start).any fun layout => !layout.atHeader := by
  rw [Text.isLaidOut, Text.splitOn_ofLines h, List.foldlM_append]
  cases lines.foldlM step .start <;> rfl

theorem Text.IsCode.not_mem_lineFeed {line : Text} {values : List Text} (h : IsCode line values) :
    .char '\n' ∉ line := fun hmem => absurd (h.noControl _ hmem) (by decide)

variable {header : Header} {events : List Event} {snippets : List Snippet}

/-- The actions of a program in their blocks, behind lines that leave these open. -/
private theorem isLaidOut_append_enclose (h : Event.HaveSnippets events snippets)
    {lead : List Text} {depth : Nat} {outer : List Nat} {layout : Layout}
    (hfeeds : ∀ line ∈ lead, .char '\n' ∉ line) (hlead : lead.foldlM step .start = some layout)
    (ha : Admits (4 * depth) outer layout) :
    (Text.ofLines (lead ++ header.enclose depth snippets)).isLaidOut ↔
      ∀ event ∈ events, ¬ event.HasEmptyBlock := by
  have hcode : ∀ snippet ∈ snippets, snippet.IsCode := by
    intro snippet hs
    obtain ⟨event, -, hevent⟩ := h.exists_event hs
    exact Event.isCode_lines hevent
  have hall : ∀ line ∈ lead ++ header.enclose depth snippets, .char '\n' ∉ line := by
    refine List.forall_mem_append.2 ⟨hfeeds, fun line hline => ?_⟩
    obtain ⟨values, hv⟩ := header.isCode_enclose hcode depth line hline
    exact hv.not_mem_lineFeed
  rw [isLaidOut_ofLines hall, List.foldlM_append, hlead, Option.bind_eq_bind, Option.bind_some]
  constructor
  · intro haccept event hevent hempty
    rw [Header.foldlM_enclose_eq_none h header ha ⟨event, hevent, hempty⟩] at haccept
    cases haccept
  · intro hempty
    obtain ⟨indents, hread⟩ := Header.foldlM_enclose_eq_some h header ha hempty
    rw [hread]
    rfl

theorem isLaidOut_script_iff (h : Event.HaveSnippets events snippets) :
    (OutputFormat.script.program header snippets).isLaidOut ↔
      ∀ event ∈ events, ¬ event.HasEmptyBlock := by
  have hadmits : Admits (4 * 0) [] .start := admits_self 0 []
  refine isLaidOut_append_enclose h ?_ ?_ hadmits
  · refine List.forall_mem_append.2 ⟨List.forall_mem_append.2 ⟨by decide, ?_⟩, by decide⟩
    intro line hline
    obtain ⟨statement, hs, rfl⟩ := List.mem_map.1 hline
    obtain ⟨values, hv⟩ := Snippet.isCode_importsOf h statement hs
    exact hv.not_mem_lineFeed
  · have hscript : scriptLead.foldlM step .start = some .start := by decide
    rw [List.foldlM_append, List.foldlM_append, hscript]
    show (List.foldlM step .start ((Snippet.importsOf snippets).map Statement.line)).bind _ = _
    rw [Import.foldlM_importsOf h]
    rfl

theorem isLaidOut_test_iff (h : Event.HaveSnippets events snippets) :
    (OutputFormat.test.program header snippets).isLaidOut ↔
      ∀ event ∈ events, ¬ event.HasEmptyBlock := by
  have hlead : testLead.foldlM step .start = some ⟨[8, 4, 0], false⟩ := by decide
  have hadmits : Admits (4 * 2) [4, 0] ⟨[8, 4, 0], false⟩ := admits_self 8 [4, 0]
  exact isLaidOut_append_enclose h (by decide) hlead hadmits

end Programs

/-- A script or a test is laid out as blocks exactly if no event of the recording opens a page that
goes nowhere and waits in a block for what this sets off first. Such a block holds only a
comment. -/
theorem isLaidOut_programOf_iff {text formatName output : Text}
    (hformat : formatName = ("script" : Text) ∨ formatName = ("test" : Text))
    (h : (programOf text formatName).result = .ok output) :
    ∃ recording, Recording.parse text = .ok recording ∧
      (output.isLaidOut ↔ ∀ event ∈ recording.events, ¬ event.HasEmptyBlock) := by
  obtain ⟨format, recording, snippets, hname, hparse, hsnippets, rfl⟩ := programOf_eq_ok_iff.1 h
  refine ⟨recording, hparse, ?_⟩
  rcases hformat with rfl | rfl
  · cases hname
    exact isLaidOut_script_iff hsnippets
  · cases hname
    exact isLaidOut_test_iff hsnippets

/-- A recording that opens a page at no address, with the signals of a JSON text. -/
def blankPageRecording (signals : Text) : Text :=
  "\x7b\x7d\n\x7b\"name\":\"openPage\",\"signals\":[" ++ signals ++ "]\x7d"

/-- A dialog in front of a popup puts a statement into the popup's block. -/
theorem isLaidOut_programOf_dialog : ∃ text recording output,
    text = blankPageRecording "\x7b\"name\":\"dialog\"\x7d,\x7b\"name\":\"popup\"\x7d" ∧
      Recording.parse text = .ok recording ∧ (programOf text "script").result = .ok output ∧
      output.isLaidOut ∧ ∀ event ∈ recording.events, ¬ event.HasEmptyBlock := by
  have h : (programOf (blankPageRecording
      "\x7b\"name\":\"dialog\"\x7d,\x7b\"name\":\"popup\"\x7d") "script").result.toOption.map
      Text.isLaidOut = some true := by decide +kernel
  obtain ⟨output, hresult, haccept⟩ := Option.map_eq_some_iff.1 h
  have houtput := toOption_eq_some_iff.1 hresult
  obtain ⟨recording, hparse, hiff⟩ := isLaidOut_programOf_iff (.inl rfl) houtput
  exact ⟨_, recording, output, rfl, hparse, houtput, haccept, hiff.1 haccept⟩

/-- A popup alone is waited for by a block that holds only a comment. -/
theorem not_isLaidOut_programOf_popup : ∃ output,
    (programOf (blankPageRecording "\x7b\"name\":\"popup\"\x7d") "script").result = .ok output ∧
      output.isLaidOut = false := by
  have h : (programOf (blankPageRecording "\x7b\"name\":\"popup\"\x7d")
      "script").result.toOption.map Text.isLaidOut = some false := by decide +kernel
  obtain ⟨output, hresult, hrefuse⟩ := Option.map_eq_some_iff.1 h
  exact ⟨output, toOption_eq_some_iff.1 hresult, hrefuse⟩

end Playback
