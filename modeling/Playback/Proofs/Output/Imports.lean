import Playback.Proofs.Event.Words
import Playback.Proofs.Output.Formats

/-!
# What a program imports

* `Import.ofLine`, `Import.read`: the imports of a line and of a program, read back from its text.
* `Import.ofLine_eq_nil`: a line of code without the words for it imports nothing.
* `programOf_imports`: a script imports exactly what it uses, and a test at least that.
-/

namespace Playback

/-- The text without spaces in front of it. -/
def Text.unindented (line : Text) : Text := line.dropWhile (· == .char ' ')

namespace Import

/-- What stands between commas, without the spaces around it. -/
def listed (t : Text) : List Text := (t.splitOn (.char ',')).map (Text.trim (· == .char ' '))

/-- The imports of a statement that imports names from a module, given what stands behind its first
word. -/
def ofSource (rest : Text) : List Import :=
  let source := rest.takeWhile (· != .char ' ')
  match Text.after? (rest.drop source.length) " import " with
  | some names => (listed names).map fun name => ⟨source, name⟩
  | none => []

/-- The imports of a line. A module that is imported as a whole has no name. -/
def ofLine (line : Text) : List Import :=
  match line.unindented.after? "from " with
  | some rest => ofSource rest
  | none =>
    match line.unindented.after? "import " with
    | some modules => (listed modules).map fun source => ⟨source, []⟩
    | none => []

/-- The imports of a program, line by line. -/
def read (program : Text) : List Import := (program.splitOn (.char '\n')).flatMap ofLine

end Import

/-! ## Lines that import nothing -/

namespace Text

/-- A line that begins with a word has that word, if all its literals are closed. -/
theorem mem_words_append {word rest : Text} (hw : word.IsWord) (hr : rest.EndsName)
    (h : (Piece.read? (word ++ rest)).isSome) : word ∈ (word ++ rest).words := by
  obtain ⟨front, hfront, hlexemes⟩ := hasLexemes_word hw
  rw [Piece.read?_append hfront, Option.isSome_map] at h
  obtain ⟨back, hback⟩ := Option.isSome_iff_exists.1 h
  rw [words_eq, lexemes, Piece.read?_append hfront, hback, Option.map_some, Option.map_some,
    Option.getD_some, hlexemes back (Piece.endsWord_of_read? hback hr)]
  exact List.mem_cons_self

theorem unindented_shifted (columns : Nat) (line : Text) :
    (shifted columns line).unindented = line.unindented := by
  unfold shifted unindented
  rw [List.dropWhile_append_of_pos]
  intro p hp
  rw [List.eq_of_mem_replicate hp]
  decide

/-- The words of a line, and whether its literals are closed, are the same without spaces in
front. -/
theorem words_unindented (line : Text) : line.unindented.words = line.words ∧
    (Piece.read? line.unindented).isSome = (Piece.read? line).isSome := by
  unfold unindented
  induction line with
  | nil => exact ⟨rfl, rfl⟩
  | cons p line ih =>
    by_cases hp : p = .char ' '
    · rw [List.dropWhile_cons_of_pos (by simp [hp]), hp, words_space_cons, Piece.read?,
        if_neg (by decide), Option.isSome_map]
      exact ih
    · rw [List.dropWhile_cons_of_neg (by simp [hp])]
      exact ⟨rfl, rfl⟩

end Text

namespace Import

/-- A line without the words of statements that import imports nothing. -/
theorem ofLine_eq_nil {line : Text} (hread : (Piece.read? line).isSome) (h : line.HasNoImport) :
    ofLine line = [] := by
  obtain ⟨hwords, hsome⟩ := line.words_unindented
  rw [hread] at hsome
  rw [Text.HasNoImport, ← hwords] at h
  have hnone {word : Text} (hw : word.IsWord) (hnot : word ∉ line.unindented.words) :
      line.unindented.after? (word ++ " ") = none := by
    refine Option.eq_none_iff_forall_ne_some.2 fun rest hrest => hnot ?_
    have hline := Text.after?_eq_some hrest
    rw [List.append_assoc] at hline
    rw [hline] at hsome ⊢
    exact Text.mem_words_append hw (Text.endsName_cons (by decide) rest) hsome
  have hfrom : line.unindented.after? "from " = none := hnone (by decide) h.1
  have himport : line.unindented.after? "import " = none := hnone (by decide) h.2
  rw [ofLine, hfrom, himport]

/-- Indented lines import what the lines do. -/
theorem ofLine_shifted (columns : Nat) (line : Text) :
    ofLine (Text.shifted columns line) = ofLine line := by
  rw [ofLine, ofLine, line.unindented_shifted]

end Import

/-- The lines of snippets import nothing. -/
theorem Snippet.ofLine_eq_nil_of_mem_linesOf {events : List Event} {snippets : List Snippet}
    (h : Event.HaveSnippets events snippets) :
    ∀ line ∈ linesOf snippets, Import.ofLine line = [] := by
  intro line hline
  obtain ⟨snippet, hs, hline⟩ := List.mem_flatMap.1 hline
  obtain ⟨event, -, hevent⟩ := h.exists_event hs
  obtain ⟨values, hcode⟩ := Event.isCode_lines hevent line hline
  obtain ⟨pieces, hpieces, -⟩ := hcode.pieces
  obtain ⟨-, -, hnowhere⟩ := Event.asserts_snippet_iff hevent
  exact Import.ofLine_eq_nil (hpieces ▸ rfl) (hnowhere line hline)

/-- The blocks with lines that import nothing import nothing. -/
theorem Header.ofLine_eq_nil_of_mem_framed (header : Header) (columns : Nat) {lines : List Text}
    (h : ∀ line ∈ lines, Import.ofLine line = []) :
    ∀ line ∈ header.framed columns lines, Import.ofLine line = [] := by
  have hlifecycle : ∀ line ∈ header.lifecycle, Import.ofLine line = [] := by
    unfold lifecycle
    cases header.browser <;> cases header.isHeadless <;> decide +kernel
  rw [framed_eq]
  refine List.forall_mem_append.2 ⟨List.forall_mem_map.2 fun line hline => ?_,
    List.forall_mem_map.2 fun line hline => ?_⟩
  · rw [Import.ofLine_shifted]
    exact hlifecycle line hline
  · rw [Import.ofLine_shifted]
    rcases List.mem_append.1 hline with hline | hline
    · exact h line hline
    · split at hline
      · rw [List.mem_singleton.1 hline]
        decide +kernel
      · cases hline

/-! ## Programs -/

/-- A snippet is of one kind exactly if its event is of another: then there is such a snippet
exactly if there is such an event. -/
theorem Event.HaveSnippets.exists_iff {events : List Event} {snippets : List Snippet}
    (h : HaveSnippets events snippets) {P : Snippet → Prop} {Q : Event → Prop}
    (hiff : ∀ event snippet, event.snippet.result = .ok snippet → (P snippet ↔ Q event)) :
    (∃ snippet ∈ snippets, P snippet) ↔ ∃ event ∈ events, Q event := by
  induction h with
  | nil => simp
  | @cons event snippet events snippets hfirst hrest ih =>
    simp only [List.mem_cons, exists_eq_or_imp, hiff event snippet hfirst, ih]

/-- Snippets import the function of assertions exactly if an event asserts something. -/
theorem Event.HaveSnippets.assertionImport_mem_iff {events : List Event} {snippets : List Snippet}
    (h : HaveSnippets events snippets) : assertionImport ∈ snippets.flatMap Snippet.imports ↔
      ∃ event ∈ events, event.name ∈ assertionNames := by
  rw [List.mem_flatMap]
  exact h.exists_iff fun _ _ hsnippet => (Event.asserts_snippet_iff hsnippet).2.1

/-- The function of assertions is a word of a line exactly if a snippet asserts. -/
theorem Snippet.exists_mem_linesOf_iff {snippets : List Snippet} :
    (∃ line ∈ linesOf snippets, assertionImport.name ∈ line.words) ↔
      ∃ snippet ∈ snippets, snippet.Asserts := by
  simp only [linesOf, List.mem_flatMap, Asserts]
  grind

/-- The lines of a script are those of the lead, one for the imports, and those of the blocks. -/
theorem OutputFormat.splitOn_program_script {events : List Event} {snippets : List Snippet}
    (h : Event.HaveSnippets events snippets) (header : Header) {importLine : Text}
    (hline : (Snippet.importsOf snippets).map Statement.line = [importLine])
    (hfeed : .char '\n' ∉ importLine) :
    (script.program header snippets).splitOn (.char '\n') = scriptLead ++ [importLine] ++ [[]] ++
      header.framed (4 * 0) (Snippet.linesOf snippets) ++ [[]] := by
  have hprogram : script.program header snippets = Text.ofLines (scriptLead ++ [importLine] ++
      [[]] ++ header.framed (4 * 0) (Snippet.linesOf snippets)) := by
    rw [program, hline, header.enclose_eq 0 (Snippet.isBodyLine_of_mem_linesOf h)]
  have hlead : ∀ line ∈ scriptLead ++ [importLine] ++ [[]], .char '\n' ∉ line := by
    have hown : ∀ line ∈ scriptLead, .char '\n' ∉ line := by decide +kernel
    simp only [List.forall_mem_append, List.forall_mem_singleton]
    exact ⟨⟨hown, hfeed⟩, List.not_mem_nil⟩
  exact (header.ofLines_framed h 0 hlead hprogram).1

/-- Of these lines only the one for the imports imports anything. -/
theorem OutputFormat.read_program_script {events : List Event} {snippets : List Snippet}
    (h : Event.HaveSnippets events snippets) (header : Header) {importLine : Text}
    (hline : (Snippet.importsOf snippets).map Statement.line = [importLine])
    (hfeed : .char '\n' ∉ importLine) :
    Import.read (script.program header snippets) = Import.ofLine importLine := by
  have hframed := List.flatMap_eq_nil_iff.2
    (header.ofLine_eq_nil_of_mem_framed (4 * 0) (Snippet.ofLine_eq_nil_of_mem_linesOf h))
  have hnone : scriptLead.flatMap Import.ofLine = [] := by decide +kernel
  have hempty : Import.ofLine [] = [] := rfl
  rw [Import.read, splitOn_program_script h header hline hfeed]
  simp only [List.flatMap_append, List.flatMap_cons, List.flatMap_nil, hframed, hnone, hempty,
    List.nil_append, List.append_nil]

/-- A test imports what its lead does. -/
theorem OutputFormat.mem_read_program_test {events : List Event} {snippets : List Snippet}
    (h : Event.HaveSnippets events snippets) (header : Header) :
    assertionImport ∈ Import.read (test.program header snippets) := by
  have hprogram : test.program header snippets =
      Text.ofLines (testLead ++ header.framed (4 * 2) (Snippet.linesOf snippets)) := by
    rw [program, header.enclose_eq 2 (Snippet.isBodyLine_of_mem_linesOf h)]
  have hlead : assertionImport ∈ testLead.flatMap Import.ofLine := by decide +kernel
  rw [Import.read, (header.ofLines_framed h 2 (by decide +kernel) hprogram).1, List.flatMap_append,
    List.flatMap_append]
  exact List.mem_append_left _ (List.mem_append_left _ hlead)

/-- A script imports the function of the driver, and in front of it that of assertions if a snippet
does. -/
theorem OutputFormat.read_program_script_cases {events : List Event} {snippets : List Snippet}
    (h : Event.HaveSnippets events snippets) (header : Header) :
    (snippets.flatMap Snippet.imports = [] ∧
        Import.read (script.program header snippets) = [launchImport]) ∨
      (assertionImport ∈ snippets.flatMap Snippet.imports ∧
        Import.read (script.program header snippets) = [assertionImport, launchImport]) := by
  rcases Import.map_line_importsOf_cases h with ⟨hnone, hline⟩ | ⟨hsome, hline⟩
  · refine .inl ⟨hnone, ?_⟩
    rw [read_program_script h header hline (by decide +kernel)]
    decide +kernel
  · refine .inr ⟨hsome, ?_⟩
    rw [read_program_script h header hline (by decide +kernel)]
    decide +kernel

/-- A script imports the function of assertions exactly if an event asserts something. -/
theorem OutputFormat.mem_read_program_script_iff {events : List Event} {snippets : List Snippet}
    (h : Event.HaveSnippets events snippets) (header : Header) :
    assertionImport ∈ Import.read (script.program header snippets) ↔
      ∃ event ∈ events, event.name ∈ assertionNames := by
  rw [← h.assertionImport_mem_iff]
  rcases read_program_script_cases h header with ⟨hnone, hread⟩ | ⟨hsome, hread⟩
  · rw [hread, hnone]
    decide
  · rw [hread]
    exact iff_of_true List.mem_cons_self hsome

/-- A script imports the function of the driver and, exactly if its body uses it, that of
assertions: exactly if an event asserts something, whatever signals it has. It imports nothing else,
and nothing twice. A test imports whatever the snippet of any event may need. -/
theorem programOf_imports {text script : Text}
    (h : (programOf text "script").result = .ok script) :
    ∃ recording body, Recording.parse text = .ok recording ∧
      (programOf text "body").result = .ok body ∧ script.bodyBehind 8 16 = body ∧
      ((∃ line ∈ body.splitOn (.char '\n'), assertionImport.name ∈ Text.words line) ↔
        assertionImport ∈ Import.read script) ∧
      (assertionImport ∈ Import.read script ↔
        ∃ event ∈ recording.events, event.name ∈ assertionNames) ∧
      launchImport ∈ Import.read script ∧
      (∀ needed ∈ Import.read script, needed = launchImport ∨ needed = assertionImport) ∧
      (Import.read script).Nodup ∧
      ∀ test, (programOf text "test").result = .ok test → ∀ (event : Event) (snippet : Snippet),
        event.snippet.result = .ok snippet → ∀ needed ∈ snippet.imports,
          needed ∈ Import.read test := by
  obtain ⟨format, recording, snippets, hformat, hparse, hs, rfl⟩ := programOf_eq_ok_iff.1 h
  cases hformat
  have hne := Recording.events_ne_nil hparse
  have hlines : (OutputFormat.body.program recording.header snippets).splitOn (.char '\n') =
      Snippet.linesOf snippets :=
    Text.splitOn_joined (Snippet.linesOf_ne_nil hs hne) (Snippet.not_mem_lineFeed_of_mem_linesOf hs)
  have hasserts : (∃ snippet ∈ snippets, snippet.Asserts) ↔
      ∃ event ∈ recording.events, event.name ∈ assertionNames :=
    hs.exists_iff fun _ _ hsnippet => (Event.asserts_snippet_iff hsnippet).1
  -- a script imports one function or two, whatever its body is
  have hread := OutputFormat.read_program_script_cases hs recording.header
  have hscript := OutputFormat.mem_read_program_script_iff hs recording.header
  refine ⟨recording, OutputFormat.body.program recording.header snippets, hparse,
    programOf_eq_ok_iff.2 ⟨.body, recording, snippets, rfl, hparse, hs, rfl⟩,
    (recording.header.formats_of_haveSnippets hs hne).body_of_script, ?_, hscript, ?_, ?_, ?_, ?_⟩
  · rw [hlines, Snippet.exists_mem_linesOf_iff, hasserts, hscript]
  · rcases hread with ⟨-, hread⟩ | ⟨-, hread⟩ <;> simp [hread]
  · rcases hread with ⟨-, hread⟩ | ⟨-, hread⟩ <;> simp [hread]
  · rcases hread with ⟨-, hread⟩ | ⟨-, hread⟩ <;> rw [hread] <;> decide
  · intro test htest event snippet hsnippet needed hneeded
    obtain ⟨format, other, snippets, hformat, -, hs, rfl⟩ := programOf_eq_ok_iff.1 htest
    cases hformat
    rw [Import.eq_assertionImport hsnippet hneeded]
    exact OutputFormat.mem_read_program_test hs other.header

/-- A recording that fills in the name of the function of assertions, and asserts something that
opens a page. -/
def assertedText : Text :=
  "\x7b\x7d\n" ++ "\x7b\"name\": \"fill\", \"text\": \"expect\"\x7d\n" ++
    "\x7b\"name\": \"assertVisible\", \"signals\": [\x7b\"name\": \"popup\"\x7d]\x7d"

theorem programOf_imports_assertedText :
    ∃ script body, (programOf assertedText "script").result = .ok script ∧
      (programOf assertedText "body").result = .ok body ∧
      (∃ line ∈ body.splitOn (.char '\n'), assertionImport.name ∈ Text.words line) ∧
      assertionImport ∈ Import.read script ∧ launchImport ∈ Import.read script := by
  have hsome : (programOf assertedText "script").result.toOption.isSome := by decide +kernel
  have hnames : (Recording.parse assertedText).toOption.map
      (fun recording => recording.events.map Event.name) =
        some (["fill", "assertVisible"] : List Text) := by decide +kernel
  obtain ⟨script, hscript⟩ := Option.isSome_iff_exists.1 hsome
  have h : (programOf assertedText "script").result = .ok script := toOption_eq_some_iff.1 hscript
  obtain ⟨recording, body, hparse, hbody, -, huses, hasserts, hlaunch, -⟩ := programOf_imports h
  rw [hparse] at hnames
  have hnames : recording.events.map Event.name = ["fill", "assertVisible"] :=
    Option.some.inj hnames
  have hevent : ("assertVisible" : Text) ∈ recording.events.map Event.name := by
    rw [hnames]
    exact List.mem_cons_of_mem _ List.mem_cons_self
  obtain ⟨event, hmem, hname⟩ := List.mem_map.1 hevent
  have himport := hasserts.2 ⟨event, hmem, hname ▸ by decide⟩
  exact ⟨script, body, h, hbody, huses.2 himport, himport, hlaunch⟩

end Playback
