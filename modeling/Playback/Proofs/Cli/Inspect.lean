import Playback.Proofs.Cli.Generate
import Playback.Proofs.Recording.Parse
import Playback.Proofs.Summary

/-!
# What `inspect` prints of a recording

The summary of a recording accounts for all its actions and signals. What is printed of it may not:
a name loses its control sequences, so that two names may be printed alike, and the first message
that has no bytes ends the command.

* `Recording.IsSummarised`: an outcome accounts for the lines of a recording.
* `Recording.PrintsEntries`: what is printed of entries, with one field for each way in which it
  ends, and when it accounts for the lines.
* `Command.isSummarised_inspect_iff`: this is what every command line prints that asks for a
  summary.
-/

namespace Playback

namespace Recording

/-- The outcome accounts for the lines: the entries that it lists say how often each name of an
action and of a signal occurs on them, and the number above them is that of the lines. -/
def IsSummarised (recording : Recording) (lines : List Text) (outcome : Playback.Outcome) : Prop :=
  ∃ names signalNames actions signals, AccountsFor lines names signalNames actions signals ∧
    outcome.exitCode = 0 ∧
    outcome.output = (recording.summaryMessages lines.length actions signals).flatten

/-- What is printed of entries that account for lines with these names. -/
structure PrintsEntries (recording : Recording) (lines names : List Text)
    (signalNames : List (List Text)) (actions signals : List (Text × Nat))
    (outcome : Playback.Outcome) : Prop where
  /-- If all messages have bytes, all are printed, with the names as they are shown. -/
  whole : (∀ message ∈ recording.summaryMessages lines.length actions signals,
      message.isUnicode) →
    outcome.exitCode = 0 ∧ outcome.output =
      (recording.summaryMessages lines.length (shownEntries actions) (shownEntries signals)).flatten
  /-- The first message that has none ends the command. -/
  cut : ∀ front message back,
    recording.summaryMessages lines.length actions signals = front ++ message :: back →
    (∀ earlier ∈ front, earlier.isUnicode) → ¬ message.isUnicode →
    outcome.exitCode = 1 ∧ outcome.output = front.flatMap Text.withoutControlSequences
  /-- The shown names of actions are all listed once and in order exactly if they stay in order. -/
  isTally_actions_iff :
    IsTally (names.map Text.withoutControlSequences) (shownEntries actions) ↔
      Text.IsAscending ((shownEntries actions).map Prod.fst)
  /-- So are those of signals. -/
  isTally_signals_iff :
    IsTally (signalNames.flatten.map Text.withoutControlSequences) (shownEntries signals) ↔
      Text.IsAscending ((shownEntries signals).map Prod.fst)
  /-- The names themselves are so exactly if each of them is printed whole, and if the options, as
  far as they are shown, have bytes. -/
  isSummarised_iff : recording.IsSummarised lines outcome ↔
    ((Json.object recording.header.contextOptions).excerpt 120).isUnicode ∧
      ∀ name ∈ names ++ signalNames.flatten, name.IsPrintedWhole

section Printing

variable {recording : Recording} {lines names : List Text} {signalNames : List (List Text)}
  {actions signals : List (Text × Nat)}

theorem isSummarised_printing_iff (h : AccountsFor lines names signalNames actions signals)
    (log : Log) : recording.IsSummarised lines
        (.printing 0 (recording.summaryMessages lines.length actions signals) log) ↔
      ((Json.object recording.header.contextOptions).excerpt 120).isUnicode ∧
        ∀ name ∈ names ++ signalNames.flatten, name.IsPrintedWhole := by
  have hnames : (∀ entry ∈ actions ++ signals, entry.1.IsPrintedWhole) ↔
      ∀ name ∈ names ++ signalNames.flatten, name.IsPrintedWhole := by
    rw [List.forall_mem_append, List.forall_mem_append, h.isTally_actions.forall_mem_iff,
      h.isTally_signals.forall_mem_iff]
  rw [← hnames, ← forall_isPrintedWhole_summaryMessages, ← Outcome.printing_eq_flatten_iff log]
  constructor
  · rintro ⟨_, _, _, _, haccounts, hprinted⟩
    obtain ⟨-, -, hactions, hsignals⟩ := haccounts.unique h
    rwa [hactions, hsignals] at hprinted
  · exact fun hprinted => ⟨names, signalNames, actions, signals, h, hprinted⟩

theorem printsEntries_printing (h : AccountsFor lines names signalNames actions signals)
    (log : Log) : recording.PrintsEntries lines names signalNames actions signals
      (.printing 0 (recording.summaryMessages lines.length actions signals) log) where
  whole hunicode := by
    rw [Outcome.printing_of_isUnicode hunicode, List.flatMap_def, map_summaryMessages]
    exact ⟨rfl, rfl⟩
  cut front message back hmessages hfront hmessage := by
    rw [hmessages]
    exact Outcome.printing_of_not_isUnicode hfront hmessage back 0 log
  isTally_actions_iff := isTally_shownEntries_iff h.isTally_actions
  isTally_signals_iff := isTally_shownEntries_iff h.isTally_signals
  isSummarised_iff := isSummarised_printing_iff h log

end Printing

end Recording

namespace Command

section Inspect

variable {env : Environment} {tree : FileTree} {stdin bytes : List UInt8} {arguments : List Text}
  {path text : Text} {recording : Recording}

/-- What a command line comes to that asks for the summary of a recording. -/
theorem run_inspect (harguments : Invocation.parse? arguments = some (.inspect path))
    (hinput : input? tree env.base stdin (.inspect path) = some bytes)
    (hread : readInput bytes = .ok text) (hparse : Recording.parse text = .ok recording) :
    run env tree stdin arguments = (.printing 0
      (recording.summaryMessages recording.events.length
        (occurrences (recording.events.map Event.name)) (occurrences recording.signalNames))
      [.parsed recording.header.browser recording.events.length], tree) := by
  have hperform : Invocation.perform env.defaults bytes (.inspect path) =
      (.printing 0 (recording.summaryLines.map (· ++ ("\n" : Text)))
        [.parsed recording.header.browser recording.events.length], none) := by
    simp only [Invocation.perform, Invocation.performInspect, hread,
      Recording.load_of_parse hparse]
  rw [run_of_none harguments hinput hperform, Recording.map_summaryLines]

/-- What `inspect` prints of a recording: entries that account for every action and every signal on
its lines, as far as they can be printed. It accounts for the lines exactly if all names and the
options, as far as they are shown, have bytes and no name has control sequences. -/
theorem isSummarised_inspect_iff
    (harguments : Invocation.parse? arguments = some (.inspect path))
    (hinput : input? tree env.base stdin (.inspect path) = some bytes)
    (hread : readInput bytes = .ok text) (hparse : Recording.parse text = .ok recording) :
    ∃ headerLine lines names signalNames actions signals,
      recordLinesOf text.lines = headerLine :: lines ∧
      AccountsFor lines names signalNames actions signals ∧
      run env tree stdin arguments =
        (.printing 0 (recording.summaryMessages lines.length actions signals)
          [.parsed recording.header.browser lines.length], tree) ∧
      recording.PrintsEntries lines names signalNames actions signals
        (run env tree stdin arguments).1 := by
  obtain ⟨headerLine, lines, hlines, -, -, hevents⟩ := Recording.parse_eq_ok_iff.1 hparse
  have haccounts := Recording.accountsFor_occurrences hevents
  have hrun := run_inspect harguments hinput hread hparse
  rw [← hevents.length_eq] at hrun
  refine ⟨headerLine, lines, _, _, _, _, hlines, haccounts, hrun, ?_⟩
  rw [hrun]
  exact Recording.printsEntries_printing haccounts _

end Inspect

/-- A directory with a recording in it. -/
def recordingTree (text : Text) : FileTree :=
  { files := [(["work", "r.jsonl"], text.chars.flatMap String.utf8EncodeChar)], directories := [] }

/-- The environment there. -/
def recordingEnvironment : Environment :=
  { format? := none, directory? := none, base := .parse "/work" }

/-- The outcome of `inspect` for this recording, and the files after it. -/
def inspected (text : Text) : Outcome × FileTree :=
  run recordingEnvironment (recordingTree text) [] ["inspect", "r.jsonl"]

theorem parse?_inspect : Invocation.parse? ["inspect", "r.jsonl"] = some (.inspect "r.jsonl") := rfl

theorem input?_recordingTree (text : Text) :
    input? (recordingTree text) recordingEnvironment.base [] (.inspect "r.jsonl") =
      some (text.chars.flatMap String.utf8EncodeChar) := rfl

/-- A recording with an action that there is no code for, and with two signals of one name. -/
def teleportText : Text :=
  "\x7b\x7d\n\x7b\"name\": \"teleport\"\x7d\n\n\x7b\"name\": \"click\", \"signals\": " ++
    "[\x7b\"name\": \"popup\"\x7d, \x7b\"name\": \"popup\"\x7d]\x7d\n\x7b\"name\": \"click\"\x7d"

/-- All its actions and signals are printed. -/
theorem isSummarised_inspect_iff_teleport :
    (inspected teleportText).1.output =
      "- 浏览器: chromium\n- headless: True\n- 上下文参数: \x7b\x7d\n" ++
        "- 动作: 3 个\n  - click: 2\n  - teleport: 1\n- 信号:\n  - popup: 2\n" ∧
    ∃ (recording : Recording) (headerLine : Text), ∃ lines names signalNames actions signals,
      recordLinesOf teleportText.lines = headerLine :: lines ∧
      AccountsFor lines names signalNames actions signals ∧
      inspected teleportText =
        (.printing 0 (recording.summaryMessages lines.length actions signals)
          [.parsed recording.header.browser lines.length], recordingTree teleportText) ∧
      recording.PrintsEntries lines names signalNames actions signals
        (inspected teleportText).1 ∧
      recording.IsSummarised lines (inspected teleportText).1 := by
  have hread : readInput (teleportText.chars.flatMap String.utf8EncodeChar) = .ok teleportText := by
    rw [← toOption_eq_some_iff]
    decide +kernel
  have hshown : (Recording.parse teleportText).toOption.map (fun recording =>
      (recording.events.map Event.name ++ recording.signalNames,
        (Json.object recording.header.contextOptions).excerpt 120)) =
      some ((["teleport", "click", "click", "popup", "popup"] : List Text),
        ("\x7b\x7d" : Text)) := by
    decide +kernel
  obtain ⟨recording, hparse, hshown⟩ := Option.map_eq_some_iff.1 hshown
  have hparse := toOption_eq_some_iff.1 hparse
  obtain ⟨hnames, hoptions⟩ := Prod.mk.inj hshown
  obtain ⟨headerLine, lines, names, signalNames, actions, signals, hlines, haccounts, hrun,
    hprints⟩ := isSummarised_inspect_iff parse?_inspect (input?_recordingTree teleportText) hread
      hparse
  refine ⟨by decide +kernel, recording, headerLine, lines, names, signalNames, actions, signals,
    hlines, haccounts, hrun, hprints, hprints.isSummarised_iff.2 ⟨by rw [hoptions]; rfl, ?_⟩⟩
  -- the names on the lines are those of the events
  obtain ⟨_, _, hsame, -, -, hevents⟩ := Recording.parse_eq_ok_iff.1 hparse
  cases hlines.symm.trans hsame
  obtain ⟨rfl, rfl, -⟩ := haccounts.unique (Recording.accountsFor_occurrences hevents)
  have hwhole : ∀ name ∈ (["teleport", "click", "click", "popup", "popup"] : List Text),
      .char '\x1b' ∉ name ∧ name.isUnicode := by decide
  rw [← List.flatMap_def, ← Recording.signalNames, hnames]
  exact fun name hname => (Text.isPrintedWhole_iff_of_notMem (hwhole name hname).1).2
    (hwhole name hname).2

/-- A recording with two actions whose names are shown alike. -/
def alikeText : Text :=
  "\x7b\x7d\n\x7b\"name\": \"a\"\x7d\n\x7b\"name\": \"\\u001b[0ma\"\x7d"

/-- A recording with an action whose name has no bytes. -/
def bytelessText : Text :=
  "\x7b\x7d\n\x7b\"name\": \"a\"\x7d\n\x7b\"name\": \"\\ud83d\"\x7d"

/-- The same name is printed twice for the first recording, and the second one is not printed to its
end. -/
theorem not_isSummarised_inspect :
    (∃ recording headerLine lines, Recording.parse alikeText = .ok recording ∧
      recordLinesOf alikeText.lines = headerLine :: lines ∧
      (inspected alikeText).1.output =
        "- 浏览器: chromium\n- headless: True\n- 上下文参数: \x7b\x7d\n" ++
          "- 动作: 2 个\n  - a: 1\n  - a: 1\n" ∧
      ¬ recording.IsSummarised lines (inspected alikeText).1) ∧
    ∃ recording headerLine lines, Recording.parse bytelessText = .ok recording ∧
      recordLinesOf bytelessText.lines = headerLine :: lines ∧
      (inspected bytelessText).1.exitCode = 1 ∧
      (inspected bytelessText).1.output =
        "- 浏览器: chromium\n- headless: True\n- 上下文参数: \x7b\x7d\n" ++
          "- 动作: 2 个\n  - a: 1\n" ∧
      ¬ recording.IsSummarised lines (inspected bytelessText).1 := by
  constructor
  · have hread : readInput (alikeText.chars.flatMap String.utf8EncodeChar) = .ok alikeText := by
      rw [← toOption_eq_some_iff]
      decide +kernel
    have hnames : (Recording.parse alikeText).toOption.map (fun recording =>
        recording.events.map Event.name) = some (["a", "\x1b[0ma"] : List Text) := by
      decide +kernel
    obtain ⟨recording, hparse, hnames⟩ := Option.map_eq_some_iff.1 hnames
    have hparse := toOption_eq_some_iff.1 hparse
    obtain ⟨headerLine, lines, hlines, -, -, hevents⟩ := Recording.parse_eq_ok_iff.1 hparse
    have hrun : inspected alikeText = _ :=
      run_inspect parse?_inspect (input?_recordingTree alikeText) hread hparse
    refine ⟨recording, headerLine, lines, hparse, hlines, by decide +kernel, fun h => ?_⟩
    rw [hrun, ← hevents.length_eq] at h
    -- the second name is not printed whole
    have haccounts := Recording.accountsFor_occurrences hevents
    have hwhole := ((Recording.isSummarised_printing_iff haccounts _).1 h).2 "\x1b[0ma" (by
      rw [hnames]
      exact List.mem_append_left _ (by decide))
    exact absurd hwhole.withoutControlSequences_eq (by decide)
  · have hsome : (Recording.parse bytelessText).toOption.isSome := by decide +kernel
    obtain ⟨recording, hparse⟩ := Option.isSome_iff_exists.1 hsome
    have hparse := toOption_eq_some_iff.1 hparse
    obtain ⟨headerLine, lines, hlines, -⟩ := Recording.parse_eq_ok_iff.1 hparse
    have hcode : (inspected bytelessText).1.exitCode = 1 := by decide +kernel
    refine ⟨recording, headerLine, lines, hparse, hlines, hcode, by decide +kernel, ?_⟩
    rintro ⟨-, -, -, -, -, hzero, -⟩
    rw [hcode] at hzero
    cases hzero

end Command

end Playback
