import Mathlib.Algebra.BigOperators.Group.List.Lemmas
import Mathlib.Algebra.GroupWithZero.Nat
import Playback.Proofs.Json.Excerpt
import Playback.Proofs.Recording.Fields
import Playback.Proofs.Recording.Parse
import Playback.Proofs.Text.ControlSequence
import Playback.Proofs.Text.Sorted
import Playback.Summary

/-!
# What the summary of a recording says

* `IsTally`: entries that say how often each name of a list occurs. `isTally_occurrences`: those of
  the summary do. `isTally_shownEntries_iff`: without control sequences they still do exactly if
  they stay in order.
* `NamesAction`, `NamesSignals`: the names of the action and of the signals on a line.
  `Event.names_of_readsAs`: an event has the names that its line has.
* `AccountsFor`: tallies of the names of actions and of signals that account for lines.
  `AccountsFor.unique`: no other tallies account for the same lines.
* `Recording.summaryMessages`: the messages of a summary.
  `Recording.forall_isPrintedWhole_summaryMessages`: which of them are printed whole.
-/

namespace Playback

/-! ## Tallies -/

/-- The entries say how often each of the names occurs, in the order of the names. -/
structure IsTally (names : List Text) (entries : List (Text × Nat)) : Prop where
  isAscending : Text.IsAscending (entries.map Prod.fst)
  mem_iff : ∀ name count, (name, count) ∈ entries ↔ name ∈ names ∧ count = names.count name
  sum_eq : (entries.map Prod.snd).sum = names.length

theorem isTally_occurrences (names : List Text) : IsTally names (occurrences names) where
  isAscending := by
    have hfst : (occurrences names).map Prod.fst = Text.sortedSet names := by
      simp [occurrences, Function.comp_def]
    rw [hfst]
    exact Text.isAscending_sortedSet names
  mem_iff name count := by
    simp only [occurrences, List.mem_map, Text.mem_sortedSet, Prod.mk.injEq]
    constructor
    · rintro ⟨_, hname, rfl, rfl⟩
      exact ⟨hname, rfl⟩
    · rintro ⟨hname, rfl⟩
      exact ⟨name, hname, rfl, rfl⟩
  sum_eq := by
    have hperm : (Text.sortedSet names).Perm names.dedup := by
      refine (List.perm_ext_iff_of_nodup (Text.isAscending_sortedSet names).nodup
        names.nodup_dedup).2 fun name => ?_
      rw [Text.mem_sortedSet, List.mem_dedup]
    have hsnd : (occurrences names).map Prod.snd =
        (Text.sortedSet names).map fun name => names.count name := by
      simp [occurrences, Function.comp_def]
    rw [hsnd, (hperm.map _).sum_eq]
    convert List.sum_map_count_dedup_eq_length names
    rfl

theorem IsTally.eq_nil_iff {names : List Text} {entries : List (Text × Nat)}
    (h : IsTally names entries) : entries = [] ↔ names = [] := by
  constructor
  · rintro rfl
    exact List.length_eq_zero_iff.1 h.sum_eq.symm
  · rintro rfl
    refine List.eq_nil_iff_forall_not_mem.2 fun (name, count) hentry => ?_
    exact List.not_mem_nil ((h.mem_iff name count).1 hentry).1

theorem IsTally.forall_mem_iff {names : List Text} {entries : List (Text × Nat)}
    (h : IsTally names entries) {P : Text → Prop} :
    (∀ entry ∈ entries, P entry.1) ↔ ∀ name ∈ names, P name := by
  constructor
  · intro hentries name hname
    exact hentries (name, names.count name) ((h.mem_iff _ _).2 ⟨hname, rfl⟩)
  · rintro hnames ⟨name, count⟩ hentry
    exact hnames name ((h.mem_iff name count).1 hentry).1

/-- There is only one tally of the same names. -/
theorem IsTally.eq_occurrences {names : List Text} {entries : List (Text × Nat)}
    (h : IsTally names entries) : entries = occurrences names := by
  have hnames : entries.map Prod.fst = Text.sortedSet names := by
    refine Text.eq_of_isAscending h.isAscending (Text.isAscending_sortedSet names) fun name => ?_
    rw [Text.mem_sortedSet, List.mem_map]
    constructor
    · rintro ⟨⟨_, count⟩, hentry, rfl⟩
      exact ((h.mem_iff _ count).1 hentry).1
    · intro hname
      exact ⟨(name, names.count name), (h.mem_iff _ _).2 ⟨hname, rfl⟩, rfl⟩
  have hcounts : ∀ entry ∈ entries, entry = (entry.1, names.count entry.1) := by
    rintro ⟨name, count⟩ hentry
    rw [← ((h.mem_iff name count).1 hentry).2]
  calc entries = entries.map fun entry => (entry.1, names.count entry.1) :=
        (List.map_id entries).symm.trans (List.map_congr_left hcounts)
    _ = occurrences names := by
        rw [occurrences, ← hnames, List.map_map]
        rfl

/-- The entries with their names as they are shown. -/
def shownEntries (entries : List (Text × Nat)) : List (Text × Nat) :=
  entries.map fun (name, count) => (name.withoutControlSequences, count)

/-- Entries are a tally of the names as they are shown exactly if the shown names stay in order. If
two names are shown alike, they do not. -/
theorem isTally_shownEntries_iff {names : List Text} {entries : List (Text × Nat)}
    (h : IsTally names entries) :
    IsTally (names.map Text.withoutControlSequences) (shownEntries entries) ↔
      Text.IsAscending ((shownEntries entries).map Prod.fst) := by
  refine ⟨IsTally.isAscending, fun hascending => ⟨hascending, fun shown count => ?_, ?_⟩⟩
  · have hfst : (shownEntries entries).map Prod.fst =
        (entries.map Prod.fst).map Text.withoutControlSequences := by
      simp [shownEntries, Function.comp_def]
    have hmem {name : Text} (hname : name ∈ names) : name ∈ entries.map Prod.fst :=
      List.mem_map.2 ⟨(name, names.count name), (h.mem_iff _ _).2 ⟨hname, rfl⟩, rfl⟩
    -- shown names in order are distinct, so no two names are shown alike
    have hinj {name other : Text} (hname : name ∈ names) (hother : other ∈ names)
        (heq : name.withoutControlSequences = other.withoutControlSequences) : name = other := by
      have hnodup := hascending.nodup
      rw [hfst] at hnodup
      exact List.inj_on_of_nodup_map hnodup (hmem hname) (hmem hother) heq
    have hcount {name : Text} (hname : name ∈ names) :
        (names.map Text.withoutControlSequences).count name.withoutControlSequences =
          names.count name := by
      rw [List.count_eq_countP, List.countP_map, List.count_eq_countP]
      refine List.countP_congr fun other hother => ?_
      simp only [Function.comp_apply, beq_iff_eq]
      exact ⟨hinj hother hname, fun heq => heq ▸ rfl⟩
    simp only [shownEntries, List.mem_map, Prod.exists, Prod.mk.injEq, h.mem_iff]
    constructor
    · rintro ⟨name, _, ⟨hname, rfl⟩, rfl, rfl⟩
      exact ⟨⟨name, hname, rfl⟩, (hcount hname).symm⟩
    · rintro ⟨⟨name, hname, rfl⟩, rfl⟩
      exact ⟨name, _, ⟨hname, rfl⟩, rfl, (hcount hname).symm⟩
  · have hsnd : (shownEntries entries).map Prod.snd = entries.map Prod.snd := by
      simp [shownEntries, Function.comp_def]
    rw [hsnd, h.sum_eq, List.length_map]

/-! ## Names on lines -/

/-- The line is a record that has the name as that of its action. -/
def NamesAction (line name : Text) : Prop :=
  ∃ members : Json.Members, DecodesTo line members ∧ members.get? "name" = some (.text name)

/-- The value is an object that has the name. -/
def IsObjectNamed (value : Json) (name : Text) : Prop :=
  ∃ members : Json.Members, value = .object members ∧ members.get? "name" = some (.text name)

/-- The line is a record that has the names as those of its signals, in order. Without signals there
are no names. -/
def NamesSignals (line : Text) (names : List Text) : Prop :=
  ∃ members : Json.Members, DecodesTo line members ∧
    ((members.get? "signals" = none ∧ names = []) ∨
      ∃ items, members.get? "signals" = some (.list items) ∧
        List.Forall₂ IsObjectNamed items names)

/-- A line names one action at most. -/
theorem rightUnique_namesAction : Relator.RightUnique NamesAction := by
  rintro line name name' ⟨members, hdecodes, hname⟩ ⟨members', hdecodes', hname'⟩
  cases hdecodes.symm.trans hdecodes'
  cases hname.symm.trans hname'
  rfl

theorem rightUnique_isObjectNamed : Relator.RightUnique IsObjectNamed := by
  rintro value name name' ⟨members, rfl, hname⟩ ⟨members', hmembers, hname'⟩
  cases hmembers
  cases hname.symm.trans hname'
  rfl

/-- A line names one list of signals at most. -/
theorem rightUnique_namesSignals : Relator.RightUnique NamesSignals := by
  rintro line names names' ⟨members, hdecodes, hnames⟩ ⟨members', hdecodes', hnames'⟩
  cases hdecodes.symm.trans hdecodes'
  rcases hnames with ⟨hnone, rfl⟩ | ⟨items, hsome, hitems⟩
  · rcases hnames' with ⟨-, rfl⟩ | ⟨items', hsome', -⟩
    · rfl
    · cases hnone.symm.trans hsome'
  · rcases hnames' with ⟨hnone', -⟩ | ⟨items', hsome', hitems'⟩
    · cases hnone'.symm.trans hsome
    · cases hsome.symm.trans hsome'
      exact List.right_unique_forall₂' rightUnique_isObjectNamed hitems hitems'

theorem Signal.isObjectNamed_of_readPart {value : Json} {signal : Signal}
    (h : Json.readPart "Signal" read value = .valid signal) : IsObjectNamed value signal.name := by
  cases value with
  | object members =>
    exact ⟨members, rfl, Json.Members.get?_of_required_text (read_eq_valid_iff.1 h).2.name⟩
  | null | bool | number | text | list => simp [Json.readPart, Checked.mismatch] at h

/-- An event has the names that stand on its line. -/
theorem Event.names_of_readsAs {line : Text} {event : Event} (h : ReadsAs read line event) :
    NamesAction line event.name ∧ NamesSignals line (event.signals.map Signal.name) := by
  obtain ⟨members, hdecodes, hread⟩ := h
  have hfields := (read_eq_valid_iff.1 hread).2
  have hname := Json.Members.get?_of_required_text hfields.name
  refine ⟨⟨members, hdecodes, hname⟩, members, hdecodes, ?_⟩
  rcases Json.Members.optional_eq_valid_iff.1 hfields.signals with
    ⟨hnone, hsignals⟩ | ⟨entry, hentry, hlist⟩
  · rw [signalsField, Json.Members.entry?_eq, Option.map_eq_none_iff] at hnone
    exact .inl ⟨hnone, by rw [← hsignals, List.map_nil]⟩
  · rw [signalsField, Json.Members.entry?_eq, Option.map_eq_some_iff] at hentry
    obtain ⟨value, hvalue, rfl⟩ := hentry
    obtain ⟨items, rfl, hitems⟩ := Json.readList_eq_valid_iff.1 hlist
    refine .inr ⟨items, hvalue, List.forall₂_map_right_iff.2 ?_⟩
    exact hitems.imp fun _ _ => Signal.isObjectNamed_of_readPart

/-! ## The summary -/

/-- Entries that account for the actions and the signals on lines, which have these names. Every
line counts, whether or not there is code for an action of its name. -/
structure AccountsFor (lines names : List Text) (signalNames : List (List Text))
    (actions signals : List (Text × Nat)) : Prop where
  namesAction : List.Forall₂ NamesAction lines names
  namesSignals : List.Forall₂ NamesSignals lines signalNames
  isTally_actions : IsTally names actions
  sum_actions : (actions.map Prod.snd).sum = lines.length
  isTally_signals : IsTally signalNames.flatten signals
  sum_signals : (signals.map Prod.snd).sum = (signalNames.map List.length).sum
  signals_ne_nil_iff : signals ≠ [] ↔ ∃ own ∈ signalNames, own ≠ []

/-- Lines have only one list of names, and only one tally of it. -/
theorem AccountsFor.unique {lines names names' : List Text}
    {signalNames signalNames' : List (List Text)}
    {actions actions' signals signals' : List (Text × Nat)}
    (h : AccountsFor lines names signalNames actions signals)
    (h' : AccountsFor lines names' signalNames' actions' signals') :
    names = names' ∧ signalNames = signalNames' ∧ actions = actions' ∧ signals = signals' := by
  have hnames : names = names' :=
    List.right_unique_forall₂' rightUnique_namesAction h.namesAction h'.namesAction
  have hsignals : signalNames = signalNames' :=
    List.right_unique_forall₂' rightUnique_namesSignals h.namesSignals h'.namesSignals
  subst hnames hsignals
  rw [h.isTally_actions.eq_occurrences, h'.isTally_actions.eq_occurrences,
    h.isTally_signals.eq_occurrences, h'.isTally_signals.eq_occurrences]
  exact ⟨rfl, rfl, rfl, rfl⟩

/-- The message of an entry. -/
def entryMessage (entry : Text × Nat) : Text :=
  "  - " ++ entry.1 ++ ": " ++ Text.ofNat entry.2 ++ "\n"

/-- A title and the entries below it. -/
def tallyMessages (title : Text) (entries : List (Text × Nat)) : List Text :=
  (title ++ "\n") :: entries.map entryMessage

theorem isUnicode_ofNat (n : Nat) : (Text.ofNat n).isUnicode := by
  simp [Text.isUnicode, Text.ofNat, Text.ofDigits, CodePoint.isSurrogate]

theorem escape_notMem_ofNat (n : Nat) : .char '\x1b' ∉ Text.ofNat n := fun hp =>
  absurd ((Text.isNumeric_ofInt n).isPlain _ hp) (by decide)

theorem isUnicode_entryMessage (name : Text) (count : Nat) :
    (entryMessage (name, count)).isUnicode = name.isUnicode := by
  have hlead : Text.isUnicode "  - " := by decide
  have hcolon : Text.isUnicode ": " := by decide
  have hend : Text.isUnicode "\n" := by decide
  simp only [entryMessage, Text.isUnicode_append, isUnicode_ofNat, hlead, hcolon, hend,
    Bool.true_and, Bool.and_true]

/-- The colon behind the name of an entry ends every control sequence that the name begins. -/
theorem withoutControlSequences_entryMessage (name : Text) (count : Nat) :
    (entryMessage (name, count)).withoutControlSequences =
      entryMessage (name.withoutControlSequences, count) := by
  have hparts (name : Text) : entryMessage (name, count) = ("  - " : Text) ++
      (name ++ .char ':' :: .char ' ' :: (Text.ofNat count ++ [.char '\n'])) := by
    simp [entryMessage, Text.ofString]
  have hend : .char '\x1b' ∉ (.char ':' :: .char ' ' :: (Text.ofNat count ++ [.char '\n'])) := by
    simpa using escape_notMem_ofNat count
  rw [hparts, Text.withoutControlSequences_append_of_notMem (by decide),
    Text.withoutControlSequences_append_cons (by decide) (by decide) (by decide),
    Text.withoutControlSequences_eq hend, hparts]

theorem isPrintedWhole_entryMessage_iff (name : Text) (count : Nat) :
    (entryMessage (name, count)).IsPrintedWhole ↔ name.IsPrintedWhole := by
  have hsame : (entryMessage (name, count)).withoutControlSequences = entryMessage (name, count) ↔
      name.withoutControlSequences = name := by
    rw [withoutControlSequences_entryMessage]
    simp [entryMessage]
  constructor
  · rintro ⟨hunicode, hwhole⟩
    exact ⟨(isUnicode_entryMessage name count).symm.trans hunicode, hsame.1 hwhole⟩
  · rintro ⟨hunicode, hwhole⟩
    exact ⟨(isUnicode_entryMessage name count).trans hunicode, hsame.2 hwhole⟩

theorem forall_isPrintedWhole_tallyMessages {title : Text}
    (htitle : (title ++ "\n" : Text).IsPrintedWhole) {entries : List (Text × Nat)} :
    (∀ message ∈ tallyMessages title entries, message.IsPrintedWhole) ↔
      ∀ entry ∈ entries, entry.1.IsPrintedWhole := by
  simp only [tallyMessages, List.forall_mem_cons, htitle, true_and, List.forall_mem_map]
  exact forall₂_congr fun entry _ => isPrintedWhole_entryMessage_iff entry.1 entry.2

theorem map_tallyMessages {title : Text} (htitle : (title ++ "\n" : Text).IsPrintedWhole)
    (entries : List (Text × Nat)) :
    (tallyMessages title entries).map Text.withoutControlSequences =
      tallyMessages title (shownEntries entries) := by
  have hentries : Text.withoutControlSequences ∘ entryMessage =
      entryMessage ∘ fun (name, count) => (name.withoutControlSequences, count) :=
    funext fun (name, count) => withoutControlSequences_entryMessage name count
  rw [tallyMessages, List.map_cons, htitle.withoutControlSequences_eq, List.map_map, hentries,
    ← List.map_map]
  rfl

namespace Recording

/-- What is printed of a recording: three lines on the header, the number of its actions, and the
entries. Without entries of signals, these have no title either. -/
def summaryMessages (recording : Recording) (total : Nat) (actions signals : List (Text × Nat)) :
    List Text :=
  (recording.summaryLines.take 3).map (· ++ ("\n" : Text)) ++
    tallyMessages ("- 动作: " ++ Text.ofNat total ++ " 个") actions ++
    if signals = [] then [] else tallyMessages "- 信号:" signals

theorem take_summaryLines (recording : Recording) : recording.summaryLines.take 3 =
    ["- 浏览器: " ++ recording.header.browser.name,
      "- headless: " ++ (Json.bool recording.header.isHeadless).shown,
      "- 上下文参数: " ++ (Json.object recording.header.contextOptions).excerpt 120] := rfl

/-- The lines on the header have no escape characters: in the options they are escaped. -/
theorem escape_notMem_summaryLines (recording : Recording) :
    ∀ line ∈ recording.summaryLines.take 3, .char '\x1b' ∉ line := by
  have hbrowser (browser : Browser) : .char '\x1b' ∉ ("- 浏览器: " ++ browser.name : Text) := by
    cases browser <;> decide
  have hheadless (b : Bool) : .char '\x1b' ∉ ("- headless: " ++ (Json.bool b).shown : Text) := by
    cases b <;> decide
  have hoptions (options : Json) :
      .char '\x1b' ∉ ("- 上下文参数: " ++ options.excerpt 120 : Text) := by
    rw [List.mem_append, not_or]
    exact ⟨by decide, fun hp => absurd (options.noControl_excerpt 120 _ hp) (by decide)⟩
  rw [take_summaryLines]
  simp only [List.forall_mem_cons]
  exact ⟨hbrowser _, hheadless _, hoptions _, nofun⟩

/-- Of these lines only the one on the options may have no bytes. -/
theorem forall_isUnicode_summaryLines (recording : Recording) :
    (∀ line ∈ recording.summaryLines.take 3, line.isUnicode) ↔
      ((Json.object recording.header.contextOptions).excerpt 120).isUnicode := by
  have hbrowser (browser : Browser) : Text.isUnicode ("- 浏览器: " ++ browser.name) := by
    cases browser <;> decide
  have hheadless (b : Bool) : Text.isUnicode ("- headless: " ++ (Json.bool b).shown) := by
    cases b <;> decide
  have hlead : Text.isUnicode "- 上下文参数: " := by decide
  rw [take_summaryLines]
  simp only [List.forall_mem_cons, hbrowser, hheadless, Text.isUnicode_append, hlead, true_and,
    Bool.true_and]
  exact and_iff_left nofun

theorem isPrintedWhole_title (total : Nat) :
    ("- 动作: " ++ Text.ofNat total ++ " 个" ++ "\n" : Text).IsPrintedWhole := by
  have hescape : .char '\x1b' ∉ ("- 动作: " ++ Text.ofNat total ++ " 个" ++ "\n" : Text) := by
    simpa [Text.ofString] using escape_notMem_ofNat total
  have hparts : Text.isUnicode "- 动作: " ∧ Text.isUnicode " 个" ∧ Text.isUnicode "\n" := by decide
  rw [Text.isPrintedWhole_iff_of_notMem hescape]
  simp only [Text.isUnicode_append, isUnicode_ofNat, hparts, Bool.and_self]

theorem isPrintedWhole_signalTitle : ("- 信号:" ++ "\n" : Text).IsPrintedWhole :=
  (Text.isPrintedWhole_iff_of_notMem (by decide)).2 (by decide)

section Messages

variable {recording : Recording} {total : Nat} {actions signals : List (Text × Nat)}

/-- All messages are printed whole exactly if the names of the entries are and the options, as far
as they are shown, have bytes. -/
theorem forall_isPrintedWhole_summaryMessages :
    (∀ message ∈ recording.summaryMessages total actions signals, message.IsPrintedWhole) ↔
      ((Json.object recording.header.contextOptions).excerpt 120).isUnicode ∧
        ∀ entry ∈ actions ++ signals, entry.1.IsPrintedWhole := by
  have hhead : (∀ line ∈ recording.summaryLines.take 3, (line ++ "\n" : Text).IsPrintedWhole) ↔
      ((Json.object recording.header.contextOptions).excerpt 120).isUnicode := by
    rw [← forall_isUnicode_summaryLines]
    refine forall₂_congr fun line hline => ?_
    have hescape : .char '\x1b' ∉ (line ++ "\n" : Text) := by
      simpa [Text.ofString] using recording.escape_notMem_summaryLines line hline
    have hend : Text.isUnicode "\n" := by decide
    rw [Text.isPrintedWhole_iff_of_notMem hescape, Text.isUnicode_append, hend, Bool.and_true]
  have hsignals : (∀ message ∈ (if signals = [] then [] else tallyMessages "- 信号:" signals),
      message.IsPrintedWhole) ↔ ∀ entry ∈ signals, entry.1.IsPrintedWhole := by
    by_cases hnil : signals = []
    · simp [hnil]
    · rw [if_neg hnil, forall_isPrintedWhole_tallyMessages isPrintedWhole_signalTitle]
  rw [summaryMessages, List.forall_mem_append, List.forall_mem_append, List.forall_mem_map, hhead,
    forall_isPrintedWhole_tallyMessages (isPrintedWhole_title total), hsignals,
    List.forall_mem_append, and_assoc]

/-- Without control sequences the messages are those of the entries as they are shown. -/
theorem map_summaryMessages :
    (recording.summaryMessages total actions signals).map Text.withoutControlSequences =
      recording.summaryMessages total (shownEntries actions) (shownEntries signals) := by
  have hhead : ((recording.summaryLines.take 3).map (· ++ ("\n" : Text))).map
      Text.withoutControlSequences = (recording.summaryLines.take 3).map (· ++ ("\n" : Text)) := by
    rw [List.map_map]
    refine List.map_congr_left fun line hline => Text.withoutControlSequences_eq ?_
    simpa [Text.ofString] using recording.escape_notMem_summaryLines line hline
  have hsignals : (if signals = [] then [] else tallyMessages "- 信号:" signals).map
      Text.withoutControlSequences =
        if shownEntries signals = [] then [] else tallyMessages "- 信号:" (shownEntries signals) := by
    cases signals with
    | nil => rfl
    | cons entry signals =>
      have hshown : shownEntries (entry :: signals) ≠ [] := List.cons_ne_nil _ _
      rw [if_neg (List.cons_ne_nil _ _), if_neg hshown]
      exact map_tallyMessages isPrintedWhole_signalTitle (entry :: signals)
  rw [summaryMessages, List.map_append, List.map_append, hhead,
    map_tallyMessages (isPrintedWhole_title total), hsignals, ← summaryMessages]

end Messages

theorem map_summaryLines (recording : Recording) : recording.summaryLines.map (· ++ ("\n" : Text)) =
    recording.summaryMessages recording.events.length
      (occurrences (recording.events.map Event.name)) (occurrences recording.signalNames) := by
  have hentries (title : Text) (names : List Text) :
      (title :: occurrenceLines names).map (· ++ ("\n" : Text)) =
        tallyMessages title (occurrences names) := by
    simp [occurrenceLines, tallyMessages, entryMessage, Function.comp_def]
  have hsignals : (if recording.signalNames.isEmpty then [] else
      ("- 信号:" : Text) :: occurrenceLines recording.signalNames).map (· ++ ("\n" : Text)) =
      if occurrences recording.signalNames = [] then []
      else tallyMessages "- 信号:" (occurrences recording.signalNames) := by
    simp only [List.isEmpty_iff, (isTally_occurrences _).eq_nil_iff]
    split
    · rfl
    · exact hentries _ _
  rw [summaryMessages, ← hsignals, ← hentries, ← List.map_append, ← List.map_append]
  rfl

/-- The summary of a recording accounts for its lines. -/
theorem accountsFor_occurrences {recording : Recording} {lines : List Text}
    (h : List.Forall₂ (ReadsAs Event.read) lines recording.events) :
    AccountsFor lines (recording.events.map Event.name)
      (recording.events.map fun event => event.signals.map Signal.name)
      (occurrences (recording.events.map Event.name)) (occurrences recording.signalNames) where
  namesAction :=
    List.forall₂_map_right_iff.2 (h.imp fun _ _ hread => (Event.names_of_readsAs hread).1)
  namesSignals :=
    List.forall₂_map_right_iff.2 (h.imp fun _ _ hread => (Event.names_of_readsAs hread).2)
  isTally_actions := isTally_occurrences _
  sum_actions := by
    rw [(isTally_occurrences _).sum_eq, List.length_map, h.length_eq]
  isTally_signals := by
    rw [← List.flatMap_def]
    exact isTally_occurrences _
  sum_signals := by
    rw [(isTally_occurrences _).sum_eq, signalNames, List.flatMap_def, List.length_flatten]
  signals_ne_nil_iff := by
    rw [Ne, (isTally_occurrences _).eq_nil_iff, signalNames, List.flatMap_def,
      List.flatten_eq_nil_iff]
    simp

end Recording

end Playback
