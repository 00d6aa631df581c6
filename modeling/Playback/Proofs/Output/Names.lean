import Playback.Proofs.Event.Names
import Playback.Proofs.Output.Imports

/-!
# The names of a script

A script binds the functions that it imports, the names of its blocks and the results of signals.
Its blocks bind the page that a recording starts with, and no other.

* `Event.IsOnFirstPage`: the event happens on that page.
* `Header.mem_freeNamesOf_framed`: the blocks bind their names for the lines in them.
* `OutputFormat.mem_freeNames_program_script_iff`: what a script leaves free.
* `programOf_freeNames`: a script has a name that nothing binds exactly if an event uses another
  page, or a number that is not finite.
-/

namespace Playback

/-- The event has no alias of a page, or that of the page that a recording starts with. -/
def Event.IsOnFirstPage (event : Event) : Prop :=
  event.pageAlias = [] ∨ event.pageAlias = Event.primaryPage

instance (event : Event) : Decidable event.IsOnFirstPage := inferInstanceAs (Decidable (_ ∨ _))

/-- The names that the blocks of a script bind. -/
def lifecycleNames : List Text := ["pw", "browser", "ctx", "pg"]

/-- The blocks bind the name of the first page, and that of no other. -/
theorem Event.page_mem_lifecycleNames_iff (event : Event) :
    event.page ∈ lifecycleNames ↔ event.IsOnFirstPage := by
  unfold page pageName IsOnFirstPage
  split
  · next h => simpa [lifecycleNames] using h
  · next h => simpa [lifecycleNames, Text.ofString] using h

theorem Text.occurrences_shifted (columns : Nat) (line : Text) :
    (shifted columns line).occurrences = line.occurrences := by
  rw [occurrences, occurrences, shifted, lexemes_spaces_append]

/-- The header of each block uses what the one around it binds, the outermost one the function of
the driver. -/
theorem Header.occurrences_scopes (header : Header) :
    header.scopes.map (fun scope => scope.line.occurrences) =
      [[.use launchImport.name, .binding "pw"], [.use "pw", .binding "browser"],
        [.use "browser", .binding "ctx"], [.use "ctx", .binding "pg"]] := by
  have hscope {resource : Expression} (used : Text) {name : Text}
      (hw : ∀ word ∈ resource.words, word.IsWord) (h : resource.occurrences = [.use used])
      (hu : used.isIdentifier) (hn : name.IsWord ∧ name.isIdentifier) :
      (Statement.scope resource name).line.occurrences = [.use used, .binding name] :=
    Statement.occurrences_line_scope hw h (List.forall_mem_singleton.2 hu) hn
  have hlaunch : ∀ word ∈ (Expression.call (.member (.member (.name "pw") header.browser.name)
      "launch") [] [("headless", .bool header.isHeadless)]).words, Text.IsWord word := by
    cases header.browser <;> cases header.isHeadless <;> decide
  refine List.cons_eq_cons.2 ⟨hscope launchImport.name (by decide) ?_ (by decide) (by decide), ?_⟩
  · simp
  refine List.cons_eq_cons.2 ⟨hscope "pw" hlaunch ?_ (by decide) (by decide), ?_⟩
  · simp
  refine List.cons_eq_cons.2 ⟨hscope "browser" (by decide) ?_ (by decide) (by decide), ?_⟩
  · simp [Expression.invoke]
  refine List.cons_eq_cons.2 ⟨hscope "ctx" (by decide) ?_ (by decide) (by decide), rfl⟩
  simp [Expression.invoke]

/-- The headers use the function of the driver, and nothing that they do not bind themselves. -/
theorem Header.freeNamesOf_lifecycle (header : Header) :
    Text.freeNamesOf header.lifecycle = [launchImport.name] ∧
      Text.bindingsOf header.lifecycle = lifecycleNames := by
  have hlead (depth : Nat) (line : Text) :
      Text.occurrences (Statement.indentationOf depth ++ line) = line.occurrences := by
    rw [Statement.indentationOf_eq]
    exact Text.occurrences_shifted (4 * depth) line
  have hlines : header.lifecycle.map Text.occurrences =
      header.scopes.map fun scope => scope.line.occurrences := by
    rw [← scopeLines_eq, scopeLines, List.map_map]
    nth_rewrite 2 [← List.zipIdx_map_fst 0 header.scopes]
    rw [List.map_map]
    exact List.map_congr_left fun scope _ => hlead scope.2 scope.1.line
  have hall := hlines.trans header.occurrences_scopes
  simp only [lifecycle, List.map_cons, List.map_nil, List.cons.injEq, and_true] at hall
  obtain ⟨hdriver, hbrowser, hcontext, hpage⟩ := hall
  constructor
  · rw [lifecycle, Text.freeNamesOf, Text.freeNamesOf, Text.freeNamesOf, Text.freeNamesOf,
      Text.freeNamesOf, hdriver, hbrowser, hcontext, hpage]
    decide
  · rw [lifecycle, Text.bindingsOf, List.flatMap_cons, List.flatMap_cons, List.flatMap_cons,
      List.flatMap_singleton, hdriver, hbrowser, hcontext, hpage]
    decide

/-- The blocks use the function of the driver, and bind their names for the lines in them. -/
theorem Header.mem_freeNamesOf_framed (header : Header) (columns : Nat) (lines : List Text)
    {name : Text} : name ∈ Text.freeNamesOf (header.framed columns lines) ↔
      name = launchImport.name ∨ name ∈ Text.freeNamesOf lines ∧ name ∉ lifecycleNames := by
  obtain ⟨hfree, hbound⟩ := header.freeNamesOf_lifecycle
  have hpass : Text.freeNamesOf (if lines.all Text.isCommentLine then [Statement.pass.line]
      else []) = [] := by
    split
    · rw [Text.freeNamesOf, Statement.occurrences_line_pass]
      rfl
    · rfl
  rw [framed_eq, Text.mem_freeNamesOf_append, Text.freeNamesOf_map (Text.occurrences_shifted _),
    Text.freeNamesOf_map (Text.occurrences_shifted _),
    Text.bindingsOf_map (Text.occurrences_shifted _), Text.mem_freeNamesOf_append, hpass,
    hfree, hbound]
  simp

/-- The lines of snippets use what their events use, and bind none of it for later ones. -/
theorem Event.HaveSnippets.mem_freeNamesOf_linesOf {events : List Event} {snippets : List Snippet}
    (h : HaveSnippets events snippets) {name : Text} :
    name ∈ Text.freeNamesOf (Snippet.linesOf snippets) ↔ ∃ event ∈ events, event.Uses name := by
  induction h with
  | nil => simp [Snippet.linesOf, Text.freeNamesOf]
  | @cons event snippet events snippets hfirst hrest ih =>
    have hnames := Event.hasNames_snippet hfirst
    have hkept : (∃ event ∈ events, event.Uses name) → name ∉ Text.bindingsOf snippet.lines := by
      rintro ⟨event, -, huses⟩ hbound
      exact huses.not_mem_resultNames (hnames.bound hbound)
    rw [Snippet.linesOf, List.flatMap_cons, Text.mem_freeNamesOf_append, hnames.free name,
      ← Snippet.linesOf, ih, and_iff_left_of_imp hkept, List.exists_mem_cons_iff]

/-- The lines above the blocks of a script use nothing, and bind the functions that are imported:
that of the driver and, exactly if an event asserts something, that of assertions. -/
theorem Event.HaveSnippets.exists_importLine {events : List Event} {snippets : List Snippet}
    (h : HaveSnippets events snippets) : ∃ importLine,
      (Snippet.importsOf snippets).map Statement.line = [importLine] ∧
        .char '\n' ∉ importLine ∧ (Piece.read? importLine).isSome ∧
        Text.freeNamesOf (scriptLead ++ [importLine] ++ [[]]) = [] ∧
        ∀ name, name ∈ Text.bindingsOf (scriptLead ++ [importLine] ++ [[]]) ↔
          name = launchImport.name ∨
            name = assertionImport.name ∧ ∃ event ∈ events, event.name ∈ assertionNames := by
  have hbound (t : Text) (imported : List Text)
      (h : Text.bindingsOf (scriptLead ++ [t] ++ [[]]) = imported) (name : Text) :
      name ∈ Text.bindingsOf (scriptLead ++ [t] ++ [[]]) ↔ name ∈ imported := by rw [h]
  rcases Import.map_line_importsOf_cases h with ⟨hnone, hline⟩ | ⟨hsome, hline⟩
  · have hasserts : ¬ ∃ event ∈ events, event.name ∈ assertionNames := by
      rw [← h.assertionImport_mem_iff, hnone]
      exact List.not_mem_nil
    refine ⟨_, hline, by decide +kernel, by decide +kernel, by decide +kernel, fun name => ?_⟩
    rw [hbound _ [launchImport.name] (by decide +kernel)]
    simp [hasserts]
  · have hasserts := h.assertionImport_mem_iff.1 hsome
    refine ⟨_, hline, by decide +kernel, by decide +kernel, by decide +kernel, fun name => ?_⟩
    rw [hbound _ [assertionImport.name, launchImport.name] (by decide +kernel)]
    simp only [List.mem_cons, List.not_mem_nil, or_false, and_iff_left hasserts]
    exact or_comm

/-- The name of an event's page is not imported. -/
theorem Event.page_ne (event : Event) :
    event.page ≠ launchImport.name ∧ event.page ≠ assertionImport.name := by
  unfold page pageName
  split
  · decide
  · simp [launchImport, assertionImport, Text.ofString]

/-- What a script uses without binding it: the pages of events on other pages than the first one,
and numbers that are not finite. -/
theorem OutputFormat.mem_freeNames_program_script_iff {events : List Event}
    {snippets : List Snippet} (h : Event.HaveSnippets events snippets) (header : Header)
    (name : Text) : name ∈ (script.program header snippets).freeNames ↔
      ∃ event ∈ events, event.UsesPage ∧ ¬ event.IsOnFirstPage ∧ name = event.page ∨
        name ∈ Number.names event.numbers := by
  obtain ⟨importLine, hline, hfeed, -, hfree, hbound⟩ := h.exists_importLine
  have hend : Text.freeNamesOf [[]] = [] := by decide +kernel
  rw [Text.freeNames, splitOn_program_script h header hline hfeed, Text.mem_freeNamesOf_append,
    Text.mem_freeNamesOf_append, hfree, hend, header.mem_freeNamesOf_framed,
    h.mem_freeNamesOf_linesOf, hbound]
  simp only [List.not_mem_nil, false_or, false_and, or_false]
  constructor
  · rintro ⟨hlaunch | ⟨⟨event, hmem, huses⟩, hlifecycle⟩, hnot⟩
    · exact absurd (.inl hlaunch) hnot
    · refine ⟨event, hmem, ?_⟩
      rcases huses with ⟨hpage, rfl⟩ | ⟨hassertion, hname⟩ | hnumber
      · have hother := mt event.page_mem_lifecycleNames_iff.2 hlifecycle
        exact .inl ⟨hpage, hother, rfl⟩
      · exact absurd (.inr ⟨hname, event, hmem, hassertion⟩) hnot
      · exact .inr hnumber
  · rintro ⟨event, hmem, ⟨hpage, hother, rfl⟩ | hnumber⟩
    · obtain ⟨hlaunch, hexpect⟩ := event.page_ne
      refine ⟨.inr ⟨⟨event, hmem, .inl ⟨hpage, rfl⟩⟩, ?_⟩, ?_⟩
      · rwa [event.page_mem_lifecycleNames_iff]
      · rintro (hname | ⟨hname, -⟩)
        · exact hlaunch hname
        · exact hexpect hname
    · have hname := Number.eq_of_mem_names hnumber
      refine ⟨.inr ⟨⟨event, hmem, .inr (.inr hnumber)⟩, ?_⟩, ?_⟩
      · rcases hname with rfl | rfl <;> decide
      · rcases hname with rfl | rfl
        · rintro (hname | ⟨hname, -⟩) <;> exact absurd hname (by decide)
        · rintro (hname | ⟨hname, -⟩) <;> exact absurd hname (by decide)

/-- Every literal of a script is closed on its line. -/
theorem OutputFormat.isSome_read?_of_mem_script {events : List Event} {snippets : List Snippet}
    (h : Event.HaveSnippets events snippets) (header : Header) :
    ∀ line ∈ (script.program header snippets).splitOn (.char '\n'), (Piece.read? line).isSome := by
  obtain ⟨importLine, hline, hfeed, hread, -⟩ := h.exists_importLine
  have hcode : ∀ snippet ∈ snippets, snippet.IsCode := by
    intro snippet hs
    obtain ⟨event, -, hevent⟩ := h.exists_event hs
    exact Event.isCode_lines hevent
  have hlead : ∀ line ∈ scriptLead, (Piece.read? line).isSome := by decide +kernel
  have hframed : ∀ line ∈ header.framed (4 * 0) (Snippet.linesOf snippets),
      (Piece.read? line).isSome := by
    rw [← header.enclose_eq 0 (Snippet.isBodyLine_of_mem_linesOf h)]
    intro line hmem
    obtain ⟨values, hv⟩ := header.isCode_enclose hcode 0 line hmem
    obtain ⟨pieces, hpieces, -⟩ := hv.pieces
    exact hpieces ▸ rfl
  have hempty : (Piece.read? []).isSome := rfl
  rw [splitOn_program_script h header hline hfeed]
  simp only [List.forall_mem_append, List.forall_mem_singleton]
  exact ⟨⟨⟨⟨hlead, hread⟩, hempty⟩, hframed⟩, hempty⟩

/-- A script uses a name that nothing in front of it binds exactly if an event uses a page that is
not the first one, or holds a number that is not finite: its blocks bind the first page alone, and
such a number is written as a name. -/
theorem programOf_freeNames {text script : Text}
    (h : (programOf text "script").result = .ok script) :
    ∃ recording, Recording.parse text = .ok recording ∧
      (∀ line ∈ script.splitOn (.char '\n'), (Piece.read? line).isSome) ∧
      (∀ name, name ∈ script.freeNames ↔ ∃ event ∈ recording.events,
        event.UsesPage ∧ ¬ event.IsOnFirstPage ∧ name = event.page ∨
          name ∈ Number.names event.numbers) ∧
      (script.freeNames = [] ↔ ∀ event ∈ recording.events,
        (event.UsesPage → event.IsOnFirstPage) ∧ ∀ n ∈ event.numbers, n.isFinite) := by
  obtain ⟨format, recording, snippets, hformat, hparse, hs, rfl⟩ := programOf_eq_ok_iff.1 h
  cases hformat
  have hnames := OutputFormat.mem_freeNames_program_script_iff hs recording.header
  refine ⟨recording, hparse, OutputFormat.isSome_read?_of_mem_script hs recording.header,
    hnames, ?_⟩
  rw [List.eq_nil_iff_forall_not_mem]
  constructor
  · intro hnone event hmem
    constructor
    · intro hpage
      by_contra hother
      exact hnone event.page ((hnames _).2 ⟨event, hmem, .inl ⟨hpage, hother, rfl⟩⟩)
    · rw [← Number.names_eq_nil_iff, List.eq_nil_iff_forall_not_mem]
      exact fun name hnumber => hnone name ((hnames _).2 ⟨event, hmem, .inr hnumber⟩)
  · intro hall name hname
    obtain ⟨event, hmem, ⟨hpage, hother, -⟩ | hnumber⟩ := (hnames _).1 hname
    · exact hother ((hall event hmem).1 hpage)
    · rw [Number.names_eq_nil_iff.2 (hall event hmem).2] at hnumber
      cases hnumber

/-- A recording of one page, with signals, a position and an assertion. -/
def onePageText : Text :=
  "\x7b\x7d\n" ++ "\x7b\"name\":\"click\",\"position\":\x7b\"x\":1,\"y\":2.5\x7d," ++
    "\"signals\":[\x7b\"name\":\"dialog\"\x7d,\x7b\"name\":\"popup\"\x7d]\x7d\n" ++
    "\x7b\"name\":\"assertVisible\"\x7d"

theorem programOf_freeNames_onePage : ∃ script,
    (programOf onePageText "script").result = .ok script ∧ script.freeNames = [] := by
  have hsome : (programOf onePageText "script").result.toOption.isSome := by decide +kernel
  have hevents : (Recording.parse onePageText).toOption.map (fun recording =>
      recording.events.all fun event => decide event.IsOnFirstPage &&
        event.numbers.all Number.isFinite) = some true := by decide +kernel
  obtain ⟨script, hscript⟩ := Option.isSome_iff_exists.1 hsome
  have h : (programOf onePageText "script").result = .ok script := toOption_eq_some_iff.1 hscript
  obtain ⟨recording, hparse, -, -, hfree⟩ := programOf_freeNames h
  rw [hparse] at hevents
  refine ⟨script, h, hfree.2 fun event hmem => ?_⟩
  have hevent := List.all_eq_true.1 (Option.some.inj hevents) event hmem
  rw [Bool.and_eq_true, decide_eq_true_eq, List.all_eq_true] at hevent
  exact ⟨fun _ => hevent.1, hevent.2⟩

/-- A recording that opens a page of another alias. -/
def otherPageText : Text :=
  "\x7b\x7d\n" ++
    "\x7b\"name\":\"openPage\",\"pageAlias\":\"page1\",\"url\":\"https://example.com/\"\x7d"

/-- The script of that page goes to its address, and nothing in it opens the page. -/
theorem mem_freeNames_otherPage : ∃ script,
    (programOf otherPageText "script").result = .ok script ∧
      ("pg_page1" : Text) ∈ script.freeNames := by
  have h : (programOf otherPageText "script").result.toOption.map Text.freeNames =
      some (["pg_page1"] : List Text) := by decide +kernel
  obtain ⟨script, hscript, hfree⟩ := Option.map_eq_some_iff.1 h
  exact ⟨script, toOption_eq_some_iff.1 hscript, hfree ▸ List.mem_cons_self⟩

end Playback
