import Playback.Proofs.Output.BodyLines
import Playback.Proofs.Recording.Parse

/-!
# How the formats agree

* `Header.framed`: the lines of a body in the blocks of a script or a test, spelled out.
  `Header.enclose_eq`: this is how a program encloses the lines of its snippets.
* `Text.bodyBehind`: the body, read back from a script or a test.
* `Header.Formats`: what the three formats of a program have to do with each other.
* `programOf_formats`: all three fail alike, or all three come out and agree.
-/

namespace Playback

/-- The text behind `columns` spaces. -/
def Text.shifted (columns : Nat) (line : Text) : Text := List.replicate columns (.char ' ') ++ line

/-- The headers of the blocks that a script opens. -/
def Header.lifecycle (header : Header) : List Text :=
  let headless : Text := if header.isHeadless then "True" else "False"
  ["with sync_playwright() as pw:",
    "    with pw." ++ header.browser.name ++ ".launch(headless=" ++ headless ++ ") as browser:",
    "        with browser.new_context() as ctx:",
    "            with ctx.new_page() as pg:"]

/-- The lines of a body in those blocks, all of it behind `columns` spaces. Comments alone get a
statement that does nothing. -/
def Header.framed (header : Header) (columns : Nat) (lines : List Text) : List Text :=
  (header.lifecycle ++ lines.map (Text.shifted 16) ++
    if lines.all Text.isCommentLine then [Text.shifted 16 "pass"] else []).map
    (Text.shifted columns)

/-- The lines that a script may have for its imports. -/
def importLines : List Text :=
  ["from playwright.sync_api import sync_playwright",
    "from playwright.sync_api import expect, sync_playwright"]

/-- The body that stands behind `lead` lines of a text and behind `columns` spaces, without
statements that do nothing. -/
def Text.bodyBehind (lead columns : Nat) (t : Text) : Text :=
  let lines := ((t.splitOn (.char '\n')).drop lead).dropLast.map (List.drop columns)
  Text.joined "\n" (lines.filter (· ≠ Statement.pass.line))

/-- The text ends in one line feed, and not in two. -/
def Text.EndsInOneLineFeed (t : Text) : Prop :=
  ∃ front, t = front ++ "\n" ∧ front.getLast? ≠ some (.char '\n')

/-- The formats of a program have the same body, line by line. Above it stand eight lines of a
script and twenty of a test, four of which are headers of blocks. -/
structure Header.Formats (header : Header) (body script test : Text) : Prop where
  script_lines : ∃ importLine ∈ importLines, script.splitOn (.char '\n') =
    scriptLead ++ [importLine] ++ [[]] ++ header.framed 0 (body.splitOn (.char '\n')) ++ [[]]
  test_lines : test.splitOn (.char '\n') =
    testLead ++ header.framed 8 (body.splitOn (.char '\n')) ++ [[]]
  body_of_script : script.bodyBehind 8 16 = body
  body_of_test : test.bodyBehind 20 24 = body
  script_end : script.EndsInOneLineFeed
  test_end : test.EndsInOneLineFeed
  body_end : body.getLast? ≠ some (.char '\n')

/-! ## The lines of a program -/

namespace Text

theorem shifted_shifted (outer inner : Nat) (line : Text) :
    shifted outer (shifted inner line) = shifted (outer + inner) line := by
  rw [shifted, shifted, shifted, ← List.append_assoc, List.replicate_append_replicate]

theorem indented_eq_shifted (depth : Nat) {line : Text} (h : line ≠ []) :
    indented (Statement.indentationOf depth) line = shifted (4 * depth) line := by
  rw [indented_of_ne_nil _ h, Statement.indentationOf_eq]
  rfl

theorem drop_shifted (columns : Nat) (line : Text) :
    (shifted columns line).drop columns = line := by
  rw [shifted, List.drop_left' (List.length_replicate ..)]

end Text

/-- A statement that does nothing follows exactly if all lines are comments. -/
theorem Snippet.filledLines_eq {lines : List Text} (h : ∀ line ∈ lines, line.IsBodyLine) :
    filledLines lines =
      lines ++ if lines.all Text.isCommentLine then [Statement.pass.line] else [] := by
  have hany : lines.any Text.isStatementLine = !lines.all Text.isCommentLine := by
    rw [List.not_all_eq_any_not, Bool.eq_iff_iff, List.any_eq_true, List.any_eq_true]
    exact exists_congr fun line => and_congr_right fun hline => by
      rw [(h line hline).isStatementLine_eq]
  unfold filledLines
  rw [hany]
  cases lines.all Text.isCommentLine <;> simp

theorem Header.scopeLines_eq (header : Header) : header.scopeLines = header.lifecycle := by
  have hlaunch (browser headless : Text) :
      Statement.indentationOf 1 ++ ("with " ++ ("pw" ++ "." ++ browser ++ "." ++ "launch" ++ "(" ++
        Text.joined ", " ["headless" ++ "=" ++ headless] ++ ")") ++ " as " ++ "browser" ++ ":") =
      "    with pw." ++ browser ++ ".launch(headless=" ++ headless ++ ") as browser:" := by
    have hfront : ("    with pw." : Text) = Statement.indentationOf 1 ++ "with " ++ "pw" ++ "." :=
      rfl
    have hmiddle : (".launch(headless=" : Text) = "." ++ "launch" ++ "(" ++ "headless" ++ "=" := rfl
    have hback : (") as browser:" : Text) = ")" ++ " as " ++ "browser" ++ ":" := rfl
    rw [hfront, hmiddle, hback, Text.joined, List.intercalate_singleton]
    simp only [List.append_assoc]
  exact List.cons_eq_cons.2 ⟨rfl, List.cons_eq_cons.2 ⟨hlaunch header.browser.name _, rfl⟩⟩

theorem Header.ne_nil_of_mem_lifecycle (header : Header) :
    ∀ line ∈ header.lifecycle, line ≠ [] := by
  simp [lifecycle, Text.ofString]

/-- The blocks, and in them the lines with what follows them if they are comments. -/
theorem Header.framed_eq (header : Header) (columns : Nat) (lines : List Text) :
    header.framed columns lines = header.lifecycle.map (Text.shifted columns) ++
      (lines ++ if lines.all Text.isCommentLine then [Statement.pass.line] else []).map
        (Text.shifted (columns + 16)) := by
  have hcomp : Text.shifted columns ∘ Text.shifted 16 = Text.shifted (columns + 16) :=
    funext (Text.shifted_shifted columns 16)
  rw [framed, List.append_assoc, List.map_append, List.map_append, List.map_append, List.map_map,
    hcomp]
  split <;> simp [Text.shifted_shifted, Statement.line]

/-- A program encloses the lines of its snippets in the blocks of its header. -/
theorem Header.enclose_eq (header : Header) (depth : Nat) {snippets : List Snippet}
    (h : ∀ line ∈ Snippet.linesOf snippets, line.IsBodyLine) :
    header.enclose depth snippets = header.framed (4 * depth) (Snippet.linesOf snippets) := by
  have hbody : ∀ line ∈ Snippet.filledLines (Snippet.linesOf snippets), line ≠ [] := by
    rw [Snippet.filledLines_eq h]
    refine List.forall_mem_append.2 ⟨fun line hline => (h line hline).ne_nil, ?_⟩
    split <;> decide
  rw [enclose, framed_eq, scopeLines_eq, ← Snippet.filledLines_eq h]
  refine congrArg₂ _ (List.map_congr_left fun line hline => ?_)
    (List.map_congr_left fun line hline => ?_)
  · exact Text.indented_eq_shifted depth (header.ne_nil_of_mem_lifecycle line hline)
  · exact Text.indented_eq_shifted (depth + 4) (hbody line hline)

/-! ## The imports of a script -/

theorem Text.sortedSet_replicate (n : Nat) (t : Text) :
    sortedSet (List.replicate (n + 1) t) = [t] := by
  induction n with
  | zero => rfl
  | succ n ih =>
    rw [List.replicate_succ]
    show insertInto t (sortedSet (List.replicate (n + 1) t)) = [t]
    rw [ih, insertInto, if_pos rfl]

/-- All imports are from one module, so that one line is enough for them. It has the function of
assertions if a snippet imports it. -/
theorem Import.map_line_importsOf_cases {events : List Event} {snippets : List Snippet}
    (h : Event.HaveSnippets events snippets) :
    (snippets.flatMap Snippet.imports = [] ∧ (Snippet.importsOf snippets).map Statement.line =
      ["from playwright.sync_api import sync_playwright"]) ∨
    (assertionImport ∈ snippets.flatMap Snippet.imports ∧
      (Snippet.importsOf snippets).map Statement.line =
        ["from playwright.sync_api import expect, sync_playwright"]) := by
  have hneeded : ∀ needed ∈ snippets.flatMap Snippet.imports, needed = assertionImport := by
    intro needed hmem
    obtain ⟨snippet, hsnippet, hi⟩ := List.mem_flatMap.1 hmem
    obtain ⟨event, -, hevent⟩ := h.exists_event hsnippet
    exact eq_assertionImport hevent hi
  have himports := List.eq_replicate_of_mem hneeded
  rw [Snippet.importsOf, himports]
  generalize (snippets.flatMap Snippet.imports).length = n
  cases n with
  | zero => exact .inl ⟨rfl, by decide +kernel⟩
  | succ n =>
    refine .inr ⟨List.mem_cons_self, ?_⟩
    have hsources : Text.sortedSet ((launchImport :: List.replicate (n + 1) assertionImport).map
        Import.source) = [driverModule] := by
      rw [List.map_cons, List.map_replicate]
      exact Text.sortedSet_replicate (n + 1) driverModule
    have hnames : namesFrom (launchImport :: List.replicate (n + 1) assertionImport) driverModule =
        [assertionImport.name, launchImport.name] := by
      have hall : (launchImport :: List.replicate (n + 1) assertionImport).filter
          (·.source = driverModule) = launchImport :: List.replicate (n + 1) assertionImport := by
        rw [List.filter_eq_self, List.forall_mem_cons]
        exact ⟨rfl, fun needed hmem => by rw [List.eq_of_mem_replicate hmem]; rfl⟩
      rw [namesFrom, hall, List.map_cons, List.map_replicate]
      show Text.insertInto _ (Text.sortedSet (List.replicate (n + 1) assertionImport.name)) = _
      rw [Text.sortedSet_replicate]
      decide
    rw [statements, hsources, List.map_singleton, hnames]
    decide +kernel

theorem Import.map_line_importsOf {events : List Event} {snippets : List Snippet}
    (h : Event.HaveSnippets events snippets) :
    ∃ importLine ∈ importLines, (Snippet.importsOf snippets).map Statement.line = [importLine] := by
  rcases map_line_importsOf_cases h with ⟨-, hline⟩ | ⟨-, hline⟩
  · exact ⟨_, List.mem_cons_self, hline⟩
  · exact ⟨_, List.mem_cons_of_mem _ List.mem_cons_self, hline⟩

/-! ## What is read back -/

namespace Text

variable {lines : List Text}

/-- What stands between the line feeds of a body are its lines. -/
theorem splitOn_joined (hne : lines ≠ []) (h : ∀ line ∈ lines, .char '\n' ∉ line) :
    (joined "\n" lines).splitOn (.char '\n') = lines :=
  List.splitOn_intercalate _ h hne

/-- The last character of lines, none of which is empty, is that of the last line. -/
theorem getLast?_joined (hne : lines ≠ [])
    (h : ∀ line ∈ lines, line ≠ [] ∧ .char '\n' ∉ line) :
    (joined "\n" lines).getLast? ≠ some (.char '\n') := by
  induction lines with
  | nil => exact absurd rfl hne
  | cons line lines ih =>
    obtain ⟨⟨hline, hfeed⟩, hlines⟩ := List.forall_mem_cons.1 h
    cases lines with
    | nil =>
      intro hlast
      rw [joined, List.intercalate_singleton] at hlast
      exact hfeed (List.mem_of_getLast? hlast)
    | cons next lines =>
      have hrest : joined "\n" (next :: lines) ≠ [] := by
        intro hnil
        have hpieces := splitOn_joined (List.cons_ne_nil next lines) fun line hline =>
          (hlines line hline).2
        rw [hnil] at hpieces
        exact (hlines next List.mem_cons_self).1 (List.cons_eq_cons.1 hpieces).1.symm
      rw [joined, List.intercalate_cons_cons]
      show (line ++ "\n" ++ joined "\n" (next :: lines)).getLast? ≠ _
      rw [List.getLast?_append_of_ne_nil _ hrest]
      exact ih (List.cons_ne_nil next lines) hlines

theorem endsInOneLineFeed_ofLines (front : List Text) (hne : lines ≠ [])
    (h : ∀ line ∈ lines, line ≠ [] ∧ .char '\n' ∉ line) :
    (ofLines (front ++ lines)).EndsInOneLineFeed := by
  obtain ⟨before, last, rfl⟩ := List.eq_nil_or_concat' lines |>.resolve_left hne
  obtain ⟨hlast, hfeed⟩ := h last (by simp)
  refine ⟨ofLines (front ++ before) ++ last, by simp [ofLines], fun hend => hfeed ?_⟩
  rw [List.getLast?_append_of_ne_nil _ hlast] at hend
  exact List.mem_of_getLast? hend

end Text

section Framed

variable {header : Header} {columns : Nat} {lines : List Text}

theorem Header.ne_nil_of_mem_framed (h : ∀ line ∈ lines, line ≠ []) :
    ∀ line ∈ header.framed columns lines, line ≠ [] := by
  intro line hline
  rw [Header.framed_eq] at hline
  rcases List.mem_append.1 hline with hline | hline
  · obtain ⟨inner, hinner, rfl⟩ := List.mem_map.1 hline
    exact List.append_ne_nil_of_right_ne_nil _ (header.ne_nil_of_mem_lifecycle inner hinner)
  · obtain ⟨inner, hinner, rfl⟩ := List.mem_map.1 hline
    refine List.append_ne_nil_of_right_ne_nil _ ?_
    rcases List.mem_append.1 hinner with hinner | hinner
    · exact h inner hinner
    · split at hinner
      · rw [List.mem_singleton.1 hinner]
        decide
      · cases hinner

/-- The body is read back from behind what stands above it. -/
theorem Header.bodyBehind_of_framed {t : Text} {lead : List Text}
    (h : ∀ line ∈ lines, line.IsBodyLine)
    (hpieces : t.splitOn (.char '\n') = lead ++ header.framed columns lines ++ [[]]) :
    t.bodyBehind (lead.length + 4) (columns + 16) = Text.joined "\n" lines := by
  have hbehind : ((t.splitOn (.char '\n')).drop (lead.length + 4)).dropLast =
      (lines ++ if lines.all Text.isCommentLine then [Statement.pass.line] else []).map
        (Text.shifted (columns + 16)) := by
    have hlifecycle : (header.lifecycle.map (Text.shifted columns)).length = 4 := rfl
    rw [hpieces, Header.framed_eq, List.append_assoc lead, ← List.drop_drop, List.drop_left,
      List.append_assoc, ← hlifecycle, List.drop_left, List.dropLast_concat]
  have hkept : (lines ++ if lines.all Text.isCommentLine then [Statement.pass.line] else []).filter
      (· ≠ Statement.pass.line) = lines := by
    have hown : lines.filter (· ≠ Statement.pass.line) = lines :=
      List.filter_eq_self.2 fun line hline => by simpa using (h line hline).ne_pass
    rw [List.filter_append, hown]
    split <;> simp
  have hdrop : List.drop (columns + 16) ∘ Text.shifted (columns + 16) = id :=
    funext (Text.drop_shifted (columns + 16))
  rw [Text.bodyBehind, hbehind, List.map_map, hdrop, List.map_id, hkept]

end Framed

/-! ## The formats -/

/-- A recording has events. -/
theorem Recording.events_ne_nil {text : Text} {recording : Recording}
    (h : parse text = .ok recording) : recording.events ≠ [] := by
  obtain ⟨headerLine, eventLines, -, hevents, -, he⟩ := parse_eq_ok_iff.1 h
  intro hnone
  rw [hnone] at he
  exact hevents (List.forall₂_nil_right_iff.1 he)

/-- The lines of snippets in their blocks are lines that end. -/
theorem Header.framed_lines {events : List Event} {snippets : List Snippet}
    (h : Event.HaveSnippets events snippets) (header : Header) (depth : Nat) :
    ∀ line ∈ header.framed (4 * depth) (Snippet.linesOf snippets),
      line ≠ [] ∧ .char '\n' ∉ line := by
  have hlines := Snippet.isBodyLine_of_mem_linesOf h
  have hcode : ∀ snippet ∈ snippets, snippet.IsCode := by
    intro snippet hs
    obtain ⟨event, -, hevent⟩ := h.exists_event hs
    exact Event.isCode_lines hevent
  intro line hline
  refine ⟨Header.ne_nil_of_mem_framed (fun line hline => (hlines line hline).ne_nil) line hline, ?_⟩
  rw [← header.enclose_eq depth hlines] at hline
  obtain ⟨values, hv⟩ := header.isCode_enclose hcode depth line hline
  exact hv.not_mem_lineFeed

/-- A program of lines above the blocks and of snippets in them. -/
theorem Header.ofLines_framed {events : List Event} {snippets : List Snippet}
    (h : Event.HaveSnippets events snippets) (header : Header) (depth : Nat) {lead : List Text}
    (hlead : ∀ line ∈ lead, .char '\n' ∉ line) {t : Text}
    (ht : t = Text.ofLines (lead ++ header.framed (4 * depth) (Snippet.linesOf snippets))) :
    t.splitOn (.char '\n') =
        lead ++ header.framed (4 * depth) (Snippet.linesOf snippets) ++ [[]] ∧
      t.bodyBehind (lead.length + 4) (4 * depth + 16) =
        Text.joined "\n" (Snippet.linesOf snippets) ∧
      t.EndsInOneLineFeed := by
  have hframed := header.framed_lines h depth
  have hpieces : t.splitOn (.char '\n') =
      lead ++ header.framed (4 * depth) (Snippet.linesOf snippets) ++ [[]] := by
    rw [ht]
    refine Text.splitOn_ofLines (List.forall_mem_append.2 ⟨hlead, ?_⟩)
    exact fun line hline => (hframed line hline).2
  have hsome : header.framed (4 * depth) (Snippet.linesOf snippets) ≠ [] := by
    rw [Header.framed_eq]
    exact List.cons_ne_nil _ _
  refine ⟨hpieces, Header.bodyBehind_of_framed (Snippet.isBodyLine_of_mem_linesOf h) hpieces, ?_⟩
  rw [ht]
  exact Text.endsInOneLineFeed_ofLines lead hsome hframed

/-- The three programs of the same snippets agree. -/
theorem Header.formats_of_haveSnippets (header : Header) {events : List Event}
    {snippets : List Snippet} (h : Event.HaveSnippets events snippets) (hne : events ≠ []) :
    header.Formats (OutputFormat.body.program header snippets)
      (OutputFormat.script.program header snippets)
      (OutputFormat.test.program header snippets) := by
  have hsome := Snippet.linesOf_ne_nil h hne
  have hlines : ∀ line ∈ Snippet.linesOf snippets, line ≠ [] ∧ .char '\n' ∉ line :=
    fun line hline => ⟨(Snippet.isBodyLine_of_mem_linesOf h line hline).ne_nil,
      Snippet.not_mem_lineFeed_of_mem_linesOf h line hline⟩
  have hbody : (OutputFormat.body.program header snippets).splitOn (.char '\n') =
      Snippet.linesOf snippets := Text.splitOn_joined hsome fun line hline => (hlines line hline).2
  obtain ⟨importLine, himport, himports⟩ := Import.map_line_importsOf h
  have hscript : OutputFormat.script.program header snippets = Text.ofLines (scriptLead ++
      [importLine] ++ [[]] ++ header.framed (4 * 0) (Snippet.linesOf snippets)) := by
    rw [OutputFormat.program, himports, header.enclose_eq 0 (Snippet.isBodyLine_of_mem_linesOf h)]
  have htest : OutputFormat.test.program header snippets = Text.ofLines (testLead ++
      header.framed (4 * 2) (Snippet.linesOf snippets)) := by
    rw [OutputFormat.program, header.enclose_eq 2 (Snippet.isBodyLine_of_mem_linesOf h)]
  have hlead : ∀ importLine ∈ importLines, ∀ line ∈ scriptLead ++ [importLine] ++ [[]],
      .char '\n' ∉ line := by decide +kernel
  obtain ⟨hscriptLines, hscriptBody, hscriptEnd⟩ :=
    header.ofLines_framed h 0 (hlead importLine himport) hscript
  obtain ⟨htestLines, htestBody, htestEnd⟩ := header.ofLines_framed h 2 (by decide +kernel) htest
  exact {
    script_lines := ⟨importLine, himport, by rw [hbody]; exact hscriptLines⟩
    test_lines := by rw [hbody]; exact htestLines
    body_of_script := hscriptBody
    body_of_test := htestBody
    script_end := hscriptEnd
    test_end := htestEnd
    body_end := Text.getLast?_joined hsome hlines }

/-- The body, the script and the test of a text fail with one error, or all of them come out. Then
the script and the test are the body, line by line, in the blocks that a script opens. -/
theorem programOf_formats (text : Text) :
    (∃ error, ∀ format : OutputFormat, (programOf text format.name).result = .error error) ∨
    ∃ recording body script test, Recording.parse text = .ok recording ∧
      (programOf text "body").result = .ok body ∧ (programOf text "script").result = .ok script ∧
      (programOf text "test").result = .ok test ∧ recording.header.Formats body script test := by
  cases hparse : Recording.parse text with
  | error error =>
    refine .inl ⟨error, fun format => ?_⟩
    rw [programOf_result_eq, hparse]
    rfl
  | ok recording =>
    cases hresult : (snippetsFrom 1 recording.events).result with
    | error error =>
      refine .inl ⟨error, fun format => ?_⟩
      rw [programOf_result_eq, hparse, ok_bind, hresult]
      rfl
    | ok snippets =>
      have hformat (format : OutputFormat) : (programOf text format.name).result =
          .ok (format.program recording.header snippets) := by
        rw [programOf_result_eq, hparse, ok_bind, hresult]
        rfl
      exact .inr ⟨recording, _, _, _, rfl, hformat .body, hformat .script, hformat .test,
        Header.formats_of_haveSnippets recording.header
          (snippetsFrom_eq_ok_iff.1 hresult) (Recording.events_ne_nil hparse)⟩

/-- All three come out for a recording in which a page is closed, and they have the same body. -/
example :
    let result (format : OutputFormat) :=
      (programOf "\x7b\x7d\n\x7b\"name\": \"closePage\"\x7d" format.name).result.toOption
    result .body = some ("pg.close()" : Text) ∧
      (result .script).map (Text.bodyBehind 8 16) = some ("pg.close()" : Text) ∧
      (result .test).map (Text.bodyBehind 20 24) = some ("pg.close()" : Text) := by
  decide +kernel

end Playback
