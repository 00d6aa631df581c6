import Playback.Proofs.Assoc
import Playback.Proofs.Event.Snippet
import Playback.Proofs.Program

/-!
# The first failure

Making a program ends at the first thing that fails: the name of the format, then the first line
that cannot be read, then the first event that has no code.

* `Event.Translates`: the action of an event has code and its signals are known.
  `Event.exists_snippet_iff`: just these events have snippets.
* `Event.snippet_of_unknownAction`, `Event.snippet_of_unknownSignal`: the error of an event with a
  name that is not in the table.
* `Recording.program_eq_error_iff`: the error of a recording is that of its first failing event.
* `FailsFirst`: what decides between the program of a text and its errors, and
  `programOf_failsFirst`.
-/

namespace Playback

/-! ## The failures of one event -/

namespace Snippet

variable {snippet : Snippet} {page : Text} {record : Json.Members}

theorem surroundAll_cons (name : Text) (names : List Text) :
    snippet.surroundAll page record (name :: names) =
      snippet.surround page record name >>= fun inner => inner.surroundAll page record names :=
  List.foldlM_cons

theorem surroundAll_append (before after : List Text) :
    snippet.surroundAll page record (before ++ after) =
      snippet.surroundAll page record before >>= fun inner =>
        inner.surroundAll page record after :=
  List.foldlM_append

theorem surround_of_unknown {name : Text} (h : name ∉ SignalKind.names.map Prod.fst) :
    snippet.surround page record name = .error (.unknownSignal name record) := by
  rw [surround, SignalKind.ofName?, lookup_eq_none_iff_not_mem.2 h]

variable (snippet page record) in
theorem exists_surround_of_known {name : Text} (h : name ∈ SignalKind.names.map Prod.fst) :
    ∃ kind, snippet.surround page record name = .ok (snippet.surrounded page kind) := by
  obtain ⟨kind, hkind⟩ := exists_lookup_iff_mem.2 h
  exact ⟨kind, by rw [surround, SignalKind.ofName?, hkind]⟩

/-- There is code around an action exactly if all names of signals are known. -/
theorem exists_surroundAll_iff {names : List Text} :
    (∃ result, snippet.surroundAll page record names = .ok result) ↔
      ∀ name ∈ names, name ∈ SignalKind.names.map Prod.fst := by
  induction names generalizing snippet with
  | nil => exact ⟨fun _ => by simp, fun _ => ⟨snippet, rfl⟩⟩
  | cons name names ih =>
    rw [surroundAll_cons, List.forall_mem_cons]
    by_cases hname : name ∈ SignalKind.names.map Prod.fst
    · obtain ⟨kind, hkind⟩ := exists_surround_of_known snippet page record hname
      rw [hkind, ok_bind, ih]
      exact (and_iff_right hname).symm
    · rw [surround_of_unknown hname]
      constructor
      · rintro ⟨_, ⟨⟩⟩
      · exact fun h => absurd h.1 hname

/-- The first unknown name is the error, whatever names follow. -/
theorem surroundAll_of_unknown {before after : List Text} {name : Text}
    (hbefore : ∀ other ∈ before, other ∈ SignalKind.names.map Prod.fst)
    (hname : name ∉ SignalKind.names.map Prod.fst) :
    snippet.surroundAll page record (before ++ name :: after) =
      .error (.unknownSignal name record) := by
  obtain ⟨inner, hinner⟩ : ∃ inner, snippet.surroundAll page record before = .ok inner :=
    exists_surroundAll_iff.2 hbefore
  rw [surroundAll_append, hinner, ok_bind, surroundAll_cons, surround_of_unknown hname]
  rfl

end Snippet

namespace Event

/-- The action of the event has code, and code is known for each of its signals. -/
structure Translates (event : Event) : Prop where
  action : ∃ own, event.actionSnippet.result = .ok own
  signals : ∀ name ∈ event.signals.map Signal.name, name ∈ SignalKind.names.map Prod.fst

variable {event : Event}

theorem snippet_of_action {own : Snippet} (h : event.actionSnippet.result = .ok own) :
    event.snippet.result =
      own.surroundAll event.page event.record (event.signals.map Signal.name) := by
  rw [snippet, Run.result_bind, h]
  rfl

theorem exists_snippet_iff :
    (∃ snippet, event.snippet.result = .ok snippet) ↔ event.Translates := by
  constructor
  · rintro ⟨snippet, hsnippet⟩
    obtain ⟨own, kinds, hown, -, -⟩ := snippet_eq_ok_iff.1 hsnippet
    rw [snippet_of_action hown] at hsnippet
    exact ⟨⟨own, hown⟩, Snippet.exists_surroundAll_iff.1 ⟨snippet, hsnippet⟩⟩
  · rintro ⟨⟨own, hown⟩, hsignals⟩
    rw [snippet_of_action hown]
    exact Snippet.exists_surroundAll_iff.2 hsignals

/-- An action that is not in the table is the error, whatever target and signals the event has. -/
theorem snippet_of_unknownAction (h : event.name ∉ Action.names.map Prod.fst) :
    event.snippet.result = .error (.unknownAction event.name event.record) := by
  rw [snippet, Run.result_bind, actionSnippet, Action.ofName?, lookup_eq_none_iff_not_mem.2 h]
  rfl

/-- Of an action that has code, the first signal that is not in the table is the error. -/
theorem snippet_of_unknownSignal {own : Snippet} {before after : List Text} {name : Text}
    (hown : event.actionSnippet.result = .ok own)
    (hnames : event.signals.map Signal.name = before ++ name :: after)
    (hbefore : ∀ other ∈ before, other ∈ SignalKind.names.map Prod.fst)
    (hname : name ∉ SignalKind.names.map Prod.fst) :
    event.snippet.result = .error (.unknownSignal name event.record) := by
  rw [snippet_of_action hown, hnames, Snippet.surroundAll_of_unknown hbefore hname]

end Event

/-! ## The failures of a recording -/

namespace Recording

variable {recording : Recording} {format : OutputFormat}

/-- A recording has a program exactly if all its events translate. -/
theorem exists_program_iff :
    (∃ output, (recording.program format).result = .ok output) ↔
      ∀ event ∈ recording.events, event.Translates := by
  simp only [program_eq_ok_iff, ← Event.exists_snippet_iff, ← exists_mapM_eq_ok_iff,
    ← mapM_eq_ok_iff]
  constructor
  · rintro ⟨_, snippets, hsnippets, -⟩
    exact ⟨snippets, hsnippets⟩
  · rintro ⟨snippets, hsnippets⟩
    exact ⟨_, snippets, hsnippets, rfl⟩

/-- The error is that of the first event that does not translate, whatever header and whatever
later events there are. -/
theorem program_eq_error_iff {error : Error} :
    (recording.program format).result = .error error ↔ ∃ before event after,
      recording.events = before ++ event :: after ∧ (∀ earlier ∈ before, earlier.Translates) ∧
      event.snippet.result = .error error := by
  have hsteps : (recording.program format).result = .error error ↔
      (snippetsFrom 1 recording.events).result = .error error := by
    simp [program, bind_eq_error_iff, ok_bind]
  simp only [hsteps, snippetsFrom_result, mapM_eq_error_iff, Event.exists_snippet_iff]

end Recording

/-! ## The failures of a text -/

/-- How an event fails: by the name of its action, before its target and its signals are looked at,
or by the first unknown name among its signals. The error shows the record of the event. -/
structure Event.FailsFirst (event : Event) : Prop where
  unknownAction : event.name ∉ Action.names.map Prod.fst →
    event.snippet.result = .error (.unknownAction event.name event.record)
  unknownSignal : ∀ own before name after, event.actionSnippet.result = .ok own →
    event.signals.map Signal.name = before ++ name :: after →
    (∀ other ∈ before, other ∈ SignalKind.names.map Prod.fst) →
    name ∉ SignalKind.names.map Prod.fst →
    event.snippet.result = .error (.unknownSignal name event.record)

/-- How a text fails: by the name of the format, before the text is looked at, or by the first line
that cannot be read, before any event is looked at, or by the first event that does not translate.
A process that is to exit at an error of the recording does so with 1, and at no other one. -/
structure FailsFirst (text : Text) : Prop where
  unknownFormat : ∀ name, (∀ format : OutputFormat, format.name ≠ name) →
    programOf text name = .fail (.unknownFormat name)
  unreadable : ∀ (format : OutputFormat) error, Recording.parse text = .error error →
    (programOf text format.name).result = .error error
  comesOut_iff : ∀ (format : OutputFormat) recording, Recording.parse text = .ok recording →
    ((∃ output, (programOf text format.name).result = .ok output) ↔
      ∀ event ∈ recording.events, event.Translates)
  failingEvent_iff : ∀ (format : OutputFormat) recording error,
    Recording.parse text = .ok recording →
    ((programOf text format.name).result = .error error ↔ ∃ before event after,
      recording.events = before ++ event :: after ∧ (∀ earlier ∈ before, earlier.Translates) ∧
      event.snippet.result = .error error)
  program_iff : ∀ name output,
    Ending.ofResult (programOf text name).result = .program output ↔
      (programOf text name).result = .ok output
  exit_iff : ∀ name code diagnostic,
    Ending.ofResult (programOf text name).result = .exit code diagnostic ↔
      code = 1 ∧ ∃ error, (programOf text name).result = .error error ∧
        error.isReported = true ∧ diagnostic = error.banner

theorem Event.failsFirst (event : Event) : event.FailsFirst where
  unknownAction := snippet_of_unknownAction
  unknownSignal _ _ _ _ hown hnames hbefore hname :=
    snippet_of_unknownSignal hown hnames hbefore hname

theorem OutputFormat.find_of_unknown {name : Text}
    (h : ∀ format : OutputFormat, format.name ≠ name) :
    find name = .error (.unknownFormat name) := by
  have hnone : ofName? name = none := List.find?_eq_none.2 fun format _ => by simpa using h format
  rw [find, hnone]

/-- The result for a text that is a recording is that of the recording. -/
theorem programOf_of_parse {text : Text} {recording : Recording}
    (h : Recording.parse text = .ok recording) (format : OutputFormat) :
    (programOf text format.name).result = (recording.program format).result := by
  simp [programOf, Recording.load, h, ok_bind]

namespace Ending

variable {result : Except Error Text}

theorem ofResult_eq_program_iff {output : Text} :
    ofResult result = .program output ↔ result = .ok output := by
  cases result with
  | ok text => simp [ofResult]
  | error error =>
    simp only [ofResult]
    split <;> simp

theorem ofResult_eq_exit_iff {code : Nat} {diagnostic : Text} :
    ofResult result = .exit code diagnostic ↔ code = 1 ∧ ∃ error, result = .error error ∧
      error.isReported = true ∧ diagnostic = error.banner := by
  cases result with
  | ok text => simp [ofResult]
  | error error =>
    by_cases hreported : error.isReported = true
    · simp only [ofResult, hreported, if_true, exit.injEq, Except.error.injEq]
      constructor
      · rintro ⟨rfl, rfl⟩
        exact ⟨rfl, error, rfl, hreported, rfl⟩
      · rintro ⟨rfl, _, rfl, -, rfl⟩
        exact ⟨rfl, rfl⟩
    · simp [ofResult, hreported]

end Ending

/-- A recording whose second and third event fail. -/
def faultyText : Text :=
  "\x7b\x7d\n\x7b\"name\": \"closePage\"\x7d\n" ++
    "\x7b\"name\": \"drag\", \"signals\": [\x7b\"name\": \"print\"\x7d]\x7d\n" ++
    "\x7b\"name\": \"closePage\", \"signals\": [\x7b\"name\": \"print\"\x7d]\x7d"

end Playback
