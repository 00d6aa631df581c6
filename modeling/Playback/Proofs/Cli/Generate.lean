import Playback.Cli.Command
import Playback.Proofs.Cli.FileTree
import Playback.Proofs.Cli.Outcome
import Playback.Proofs.Output.Formats

/-!
# What `generate` leaves behind

The program of a recording is made before anything is printed or written. So a recording without a
program leaves nothing behind, and one that has a program has all of it printed or all of it in the
file that was chosen.

* `programOf_characters`: the characters of a program. None of them is part of a control sequence,
  so that nothing is lost where a program is printed.
* `endsInOneLineFeed_closedLine`: what is printed ends in one line feed.
* `Command.Delivers`: what is left behind, with one field for each way in which `generate` ends.
* `Command.run_delivers`: this is what every command line leaves behind.
-/

namespace Playback

/-! ## The characters of a program -/

/-- A program has no control characters besides the line feeds between its lines. -/
theorem OutputFormat.program_characters {events : List Event} {snippets : List Snippet}
    (h : Event.HaveSnippets events snippets) (header : Header) (format : OutputFormat) :
    ∀ p ∈ format.program header snippets, p = .char '\n' ∨ 0x20 ≤ p.toNat := by
  have hcode : ∀ snippet ∈ snippets, snippet.IsCode := by
    intro snippet hs
    obtain ⟨event, -, hevent⟩ := h.exists_event hs
    exact Event.isCode_lines hevent
  have henclosed (depth : Nat) : ∀ line ∈ header.enclose depth snippets, ∀ p ∈ line,
      0x20 ≤ p.toNat := by
    intro line hline
    obtain ⟨values, hv⟩ := header.isCode_enclose hcode depth line hline
    exact hv.noControl
  have hlead : (∀ line ∈ scriptLead, ∀ p ∈ line, 0x20 ≤ p.toNat) ∧
      ∀ line ∈ testLead, ∀ p ∈ line, 0x20 ≤ p.toNat := by decide +kernel
  have hlines {lines : List Text} (hl : ∀ line ∈ lines, ∀ p ∈ line, 0x20 ≤ p.toNat) :
      ∀ p ∈ Text.ofLines lines, p = .char '\n' ∨ 0x20 ≤ p.toNat := by
    intro p hp
    obtain ⟨line, hline, hp⟩ := List.mem_flatMap.1 hp
    rcases List.mem_append.1 hp with hp | hp
    · exact .inr (hl line hline p hp)
    · exact .inl (List.mem_singleton.1 hp)
  -- the body ends without a line feed, and only scripts have imports of their own
  cases format with
  | body =>
    intro p hp
    rcases Text.mem_joined hp with hp | ⟨line, hline, hp⟩
    · exact .inl (List.mem_singleton.1 hp)
    · obtain ⟨snippet, hs, hline⟩ := List.mem_flatMap.1 hline
      obtain ⟨values, hv⟩ := hcode snippet hs line hline
      exact .inr (hv.noControl p hp)
  | script =>
    have himports : ∀ line ∈ (Snippet.importsOf snippets).map Statement.line, ∀ p ∈ line,
        0x20 ≤ p.toNat := by
      intro line hline
      obtain ⟨statement, hs, rfl⟩ := List.mem_map.1 hline
      obtain ⟨values, hv⟩ := Snippet.isCode_importsOf h statement hs
      exact hv.noControl
    refine hlines ?_
    simp only [List.forall_mem_append, List.forall_mem_singleton]
    exact ⟨⟨⟨hlead.1, himports⟩, nofun⟩, henclosed 0⟩
  | test => exact hlines (List.forall_mem_append.2 ⟨hlead.2, henclosed 2⟩)

theorem programOf_characters {text name program : Text}
    (h : (programOf text name).result = .ok program) :
    ∀ p ∈ program, p = .char '\n' ∨ 0x20 ≤ p.toNat := by
  obtain ⟨format, recording, snippets, -, -, hsnippets, rfl⟩ := programOf_eq_ok_iff.1 h
  exact format.program_characters hsnippets recording.header

/-- A line feed behind a program, unless there is one, makes it end in one line feed. -/
theorem endsInOneLineFeed_closedLine {text name program : Text}
    (h : (programOf text name).result = .ok program) :
    (closedLine program).EndsInOneLineFeed := by
  obtain ⟨format, recording, snippets, -, hparse, hsnippets, rfl⟩ := programOf_eq_ok_iff.1 h
  have hformats := recording.header.formats_of_haveSnippets hsnippets
    (Recording.events_ne_nil hparse)
  have hended {t : Text} (ht : t.EndsInOneLineFeed) : (closedLine t).EndsInOneLineFeed := by
    have hlast : t.getLast? = some (.char '\n') := by
      obtain ⟨front, rfl, -⟩ := ht
      exact List.getLast?_concat
    rwa [closedLine, if_pos hlast]
  cases format with
  | body =>
    rw [closedLine, if_neg hformats.body_end]
    exact ⟨_, rfl, hformats.body_end⟩
  | script => exact hended hformats.script_end
  | test => exact hended hformats.test_end

/-! ## Printing -/

/-- A program is printed as it is, with a line feed at its end. -/
theorem printing_closedLine {text name program : Text} {bytes : List UInt8}
    (h : (programOf text name).result = .ok program) (hbytes : Utf8.encode program = .ok bytes)
    (log : Log) : Outcome.printing 0 [closedLine program] log =
      { exitCode := 0, output := closedLine program, log } := by
  have hmem : ∀ p ∈ closedLine program, p ∈ program ∨ p = .char '\n' := by
    intro p hp
    unfold closedLine at hp
    split at hp
    · exact .inl hp
    · exact (List.mem_append.1 hp).imp_right List.mem_singleton.1
  refine Outcome.printing_eq (fun hescape => ?_) ?_ 0 log
  · rcases hmem _ hescape with hp | hp
    · rcases programOf_characters h _ hp with hp | hp
      · cases hp
      · exact absurd hp (by decide)
    · cases hp
  · have hunicode := (Utf8.encode_eq_ok_iff.1 hbytes).1
    rw [Text.isUnicode, List.all_eq_true] at hunicode ⊢
    intro p hp
    rcases hmem p hp with hp | rfl
    · exact hunicode p hp
    · rfl

/-! ## The command -/

namespace Command

/-- The file that is written: the one that is named, or the one for programs that are saved. -/
def IsTarget (defaults : Defaults) (recording? : Option Text) (name : Text) (out? : Option Text)
    (save : Bool) (path : FilePath) : Prop :=
  (∃ out, out? = some out ∧ path = .parse out) ∨
    (out? = none ∧ save ∧
      path = programFile defaults.directory (recording?.map FilePath.parse) name)

/-- A command that failed has printed nothing, and every file and directory is as it was. -/
def LeavesNothing (tree : FileTree) (result : Outcome × FileTree) : Prop :=
  result.1.exitCode = 1 ∧ result.1.output = [] ∧ result.2 = tree

/-- What `generate` leaves behind of an input, with one field for each way in which it ends.
Printing and writing themselves succeed: the program has bytes, and nothing is in the way of its
file. -/
structure Delivers (env : Environment) (tree : FileTree) (bytes : List UInt8)
    (recording? : Option Text) (name : Text) (out? : Option Text) (save : Bool)
    (result : Outcome × FileTree) : Prop where
  /-- The input is no text. -/
  unread : ∀ fault, readInput bytes = .error fault → LeavesNothing tree result
  /-- There is no program. -/
  failed : ∀ text error, readInput bytes = .ok text →
    (programOf text name).result = .error error → LeavesNothing tree result
  /-- The program is printed. -/
  printed : ∀ text program content, readInput bytes = .ok text →
    (programOf text name).result = .ok program → Utf8.encode program = .ok content →
    out? = none → save = false →
    result.1.exitCode = 0 ∧
      result.1.output =
        (if program.getLast? = some (.char '\n') then program else program ++ "\n") ∧
      result.1.output.EndsInOneLineFeed ∧ result.2 = tree
  /-- The program is written. -/
  written : ∀ text program content path, readInput bytes = .ok text →
    (programOf text name).result = .ok program → Utf8.encode program = .ok content →
    IsTarget env.defaults recording? name out? save path →
    (∃ tree', tree.write env.base path content = .ok tree') →
    result.1.exitCode = 0 ∧ result.1.output = [] ∧
      ∃ place, result.2.find? env.base path = some place ∧
        result.2.bytes? place = some content ∧
        ∀ other, other ≠ place → result.2.bytes? other = tree.bytes? other

end Command

/-- The one file that a program is written to. -/
theorem Invocation.target?_eq_some_iff {defaults : Defaults} {recording? out? : Option Text}
    {name : Text} {save : Bool} {path : FilePath} :
    target? defaults recording? name out? save = some path ↔
      Command.IsTarget defaults recording? name out? save path := by
  cases out? <;> cases save <;> simp [target?, Command.IsTarget, eq_comm]

section PerformGenerate

variable {defaults : Defaults} {bytes : List UInt8} {recording? format? out? : Option Text}
  {save : Bool} {text program : Text}

/-- How `generate` ends if there is a program that is printed. -/
theorem Invocation.performGenerate_of_none (hread : readInput bytes = .ok text)
    (h : (programOf text (formatName defaults format?)).result = .ok program)
    (htarget : target? defaults recording? (formatName defaults format?) out? save = none) :
    performGenerate defaults bytes recording? format? out? save =
      (.printing 0 [closedLine program] (programOf text (formatName defaults format?)).log,
        none) := by
  obtain ⟨format, -, -, hformat, -⟩ := programOf_eq_ok_iff.1 h
  simp only [performGenerate, hformat, hread, h, htarget, Ending.ofResult, Option.isNone_some,
    Bool.false_eq_true, if_false]

/-- How it ends if there is one that is written to a file. -/
theorem Invocation.performGenerate_of_some {path : FilePath} (hread : readInput bytes = .ok text)
    (h : (programOf text (formatName defaults format?)).result = .ok program)
    (htarget : target? defaults recording? (formatName defaults format?) out? save = some path) :
    performGenerate defaults bytes recording? format? out? save =
      ((writing path program (programOf text (formatName defaults format?)).log).1,
        some (writing path program (programOf text (formatName defaults format?)).log).2) := by
  obtain ⟨format, -, -, hformat, -⟩ := programOf_eq_ok_iff.1 h
  simp only [performGenerate, hformat, hread, h, htarget, Ending.ofResult, Option.isNone_some,
    Bool.false_eq_true, if_false]

end PerformGenerate

namespace Command

section Run

variable {env : Environment} {tree : FileTree} {stdin bytes : List UInt8} {arguments : List Text}
  {invocation : Invocation} {outcome : Outcome}

/-- A command line whose input is read ends as its invocation does, if that writes no file. -/
theorem run_of_none (harguments : Invocation.parse? arguments = some invocation)
    (hinput : input? tree env.base stdin invocation = some bytes)
    (h : invocation.perform env.defaults bytes = (outcome, none)) :
    run env tree stdin arguments = (outcome, tree) := by
  simp only [run, harguments, Option.bind_eq_bind, Option.bind_some, hinput, Option.pure_def, h]

/-- The same if it writes a file and nothing is in the way of that. -/
theorem run_of_some {file : WrittenFile} {tree' : FileTree}
    (harguments : Invocation.parse? arguments = some invocation)
    (hinput : input? tree env.base stdin invocation = some bytes)
    (h : invocation.perform env.defaults bytes = (outcome, some file))
    (hwrite : tree.write env.base file.path file.bytes = .ok tree') :
    run env tree stdin arguments = (outcome, tree') := by
  simp only [run, harguments, Option.bind_eq_bind, Option.bind_some, hinput, Option.pure_def, h,
    hwrite]

end Run

/-- Whatever the input, the environment and the options are, a command line that asks for a program
in one of the formats leaves all of it behind or nothing. -/
theorem run_delivers {env : Environment} {tree : FileTree} {stdin bytes : List UInt8}
    {arguments : List Text} {recording? format? out? : Option Text} {save : Bool}
    (harguments : Invocation.parse? arguments = some (.generate recording? format? out? save))
    (hinput : input? tree env.base stdin (.generate recording? format? out? save) = some bytes)
    (hformat : (OutputFormat.ofName? (Invocation.formatName env.defaults format?)).isSome)
    (hbase : tree.isDirectory env.base.steps) :
    Delivers env tree bytes recording? (Invocation.formatName env.defaults format?) out? save
      (run env tree stdin arguments) := by
  have hnone {outcome : Outcome} (h : Invocation.performGenerate env.defaults bytes recording?
      format? out? save = (outcome, none)) : run env tree stdin arguments = (outcome, tree) :=
    run_of_none harguments hinput h
  have hknown :
      (OutputFormat.ofName? (Invocation.formatName env.defaults format?)).isNone = false := by
    simpa using hformat
  constructor
  case unread =>
    intro fault hread
    have hperform : Invocation.performGenerate env.defaults bytes recording? format? out? save =
        (.failed (.undecodable fault), none) := by
      simp only [Invocation.performGenerate, hknown, hread, Bool.false_eq_true, if_false]
    rw [hnone hperform]
    exact ⟨rfl, rfl, rfl⟩
  case failed =>
    intro text error hread hprogram
    -- an error is reported, or it ends the program
    obtain ⟨outcome, hperform, hcode, houtput⟩ : ∃ outcome, Invocation.performGenerate env.defaults
        bytes recording? format? out? save = (outcome, none) ∧ outcome.exitCode = 1 ∧
          outcome.output = [] := by
      simp only [Invocation.performGenerate, hknown, hread, hprogram, Ending.ofResult]
      by_cases hreported : error.isReported
      · simp only [hreported]
        exact ⟨_, rfl, rfl, rfl⟩
      · simp only [hreported]
        exact ⟨_, rfl, rfl, rfl⟩
    rw [hnone hperform]
    exact ⟨hcode, houtput, rfl⟩
  case printed =>
    rintro text program content hread hprogram hcontent rfl rfl
    rw [hnone (Invocation.performGenerate_of_none hread hprogram rfl),
      printing_closedLine hprogram hcontent]
    exact ⟨rfl, rfl, endsInOneLineFeed_closedLine hprogram, rfl⟩
  case written =>
    rintro text program content path hread hprogram hcontent htarget ⟨tree', hwrite⟩
    have hperform := Invocation.performGenerate_of_some hread hprogram
      (Invocation.target?_eq_some_iff.2 htarget)
    simp only [Invocation.writing, hcontent] at hperform
    rw [run_of_some harguments hinput hperform hwrite]
    exact ⟨rfl, rfl, FileTree.write_leads hbase hwrite⟩

/-- The bytes of a recording in which a page is closed. -/
def closingBytes : List UInt8 :=
  ("\x7b\x7d\n\x7b\"name\": \"closePage\"\x7d" : Text).chars.flatMap String.utf8EncodeChar

/-- In an empty directory, the program of this recording is written into a file below a new
directory, also if it is to be saved. -/
theorem run_delivers_closingPage :
    let env : Environment := { format? := none, directory? := none, base := .parse "/work" }
    let tree : FileTree := { files := [], directories := [["work"]] }
    let result := run env tree closingBytes ["generate", "-f", "Body", "--save", "-o", "new/a.py"]
    result.1.exitCode = 0 ∧ result.1.output = [] ∧
      ∃ place, result.2.find? env.base (.parse "new/a.py") = some place ∧
        result.2.bytes? place = some (("pg.close()" : Text).chars.flatMap String.utf8EncodeChar) ∧
        ∀ other, other ≠ place → result.2.bytes? other = tree.bytes? other := by
  have hprogram : (programOf "\x7b\x7d\n\x7b\"name\": \"closePage\"\x7d" "body").result =
      .ok "pg.close()" := by
    rw [← toOption_eq_some_iff]
    decide +kernel
  have hread : readInput closingBytes = .ok "\x7b\x7d\n\x7b\"name\": \"closePage\"\x7d" := by
    rw [← toOption_eq_some_iff]
    decide +kernel
  have hcontent : Utf8.encode "pg.close()" =
      .ok (("pg.close()" : Text).chars.flatMap String.utf8EncodeChar) :=
    Utf8.encode_eq_ok_iff.2 ⟨by decide, rfl⟩
  have harguments : Invocation.parse? ["generate", "-f", "Body", "--save", "-o", "new/a.py"] =
      some (.generate none (some "Body") (some "new/a.py") true) := rfl
  exact (run_delivers harguments rfl (by decide +kernel) (by decide +kernel)).written
    _ _ _ _ hread hprogram hcontent (.inl ⟨_, rfl, rfl⟩) ⟨_, rfl⟩

end Command

end Playback
