import Playback.Program
import Playback.Proofs.Except
import Playback.Proofs.Run

/-!
# When there is a program

* `snippetsFrom_result`: the snippets of events are made one by one, and
  `snippetsFrom_eq_ok_iff`: events have snippets if each of them has one.
* `Event.logFrom`: what is logged while snippets are made, and `snippetsFrom_eq` that this is so.
* `programOf_result_eq`: what comes out of a text in a format, step by step.
* `programOf_eq_ok_iff`: a text has a program in the format of a name if there is such a format, the
  text is a recording, and every event of it has a snippet. The program is then that of the header
  and the snippets. `programOf_eq`: what is logged by then.
-/

namespace Playback

/-- The events have these snippets, one for each in order. -/
abbrev Event.HaveSnippets (events : List Event) (snippets : List Snippet) : Prop :=
  List.Forall₂ (fun event snippet => event.snippet.result = .ok snippet) events snippets

theorem Event.HaveSnippets.exists_event {events : List Event} {snippets : List Snippet}
    (h : HaveSnippets events snippets) {snippet : Snippet} (hs : snippet ∈ snippets) :
    ∃ event ∈ events, event.snippet.result = .ok snippet :=
  exists_left_of_forall₂ h hs

/-- The snippets are made event by event, wherever the count begins. -/
theorem snippetsFrom_result (position : Nat) (events : List Event) :
    (snippetsFrom position events).result = events.mapM fun event => event.snippet.result := by
  induction events generalizing position with
  | nil => rfl
  | cons event events ih =>
    simp only [snippetsFrom, Run.result_bind, Run.result_notice, Run.result_pure, ih, ok_bind,
      List.mapM_cons]
    rfl

theorem snippetsFrom_eq_ok_iff {position : Nat} {events : List Event} {snippets : List Snippet} :
    (snippetsFrom position events).result = .ok snippets ↔ Event.HaveSnippets events snippets := by
  rw [snippetsFrom_result, mapM_eq_ok_iff]

/-- What is logged while the snippets of events are made, the first of which is counted as
`position`. -/
def Event.logFrom (position : Nat) : List Event → Log
  | [] => []
  | event :: events =>
    .started position event.name :: (event.snippet.log ++ logFrom (position + 1) events)

theorem Event.logFrom_append (position : Nat) (before after : List Event) :
    logFrom position (before ++ after) =
      logFrom position before ++ logFrom (position + before.length) after := by
  induction before generalizing position with
  | nil => rfl
  | cons event before ih =>
    rw [List.cons_append, logFrom, logFrom, ih, List.length_cons, Nat.add_right_comm, Nat.add_assoc,
      List.cons_append, List.append_assoc]

/-- Where each event has a snippet, the making of them logs what is logged of each. -/
theorem snippetsFrom_eq {events : List Event} {snippets : List Snippet}
    (h : Event.HaveSnippets events snippets) (position : Nat) :
    snippetsFrom position events = ⟨Event.logFrom position events, .ok snippets⟩ := by
  induction h generalizing position with
  | nil => rfl
  | cons hfirst _ ih =>
    rw [snippetsFrom, Run.bind_of_ok (Run.result_notice _), Run.bind_of_ok hfirst, ih,
      Run.bind_of_ok rfl]
    simp [Event.logFrom, Run.notice, pure, Run.pure]

theorem OutputFormat.find_eq_ok_iff {name : Text} {format : OutputFormat} :
    find name = .ok format ↔ ofName? name = some format := by
  unfold find
  cases ofName? name <;> simp

@[simp] theorem OutputFormat.find_name (format : OutputFormat) : find format.name = .ok format := by
  cases format <;> rfl

/-- The reading of a recording is logged. -/
theorem Recording.load_of_parse {text : Text} {recording : Recording}
    (h : parse text = .ok recording) :
    load text = ⟨[.parsed recording.header.browser recording.events.length], .ok recording⟩ := by
  rw [load, Run.bind_of_ok ((Run.result_ofExcept _).trans h)]
  rfl

theorem Recording.program_eq_ok_iff {recording : Recording} {format : OutputFormat}
    {output : Text} : (recording.program format).result = .ok output ↔
      ∃ snippets, Event.HaveSnippets recording.events snippets ∧
        output = format.program recording.header snippets := by
  simp only [Recording.program, Run.result_bind_eq_ok, Run.result_notice, Run.result_pure,
    snippetsFrom_eq_ok_iff]
  constructor
  · rintro ⟨snippets, hs, _, -, h⟩
    exact ⟨snippets, hs, (Except.ok.inj h).symm⟩
  · rintro ⟨snippets, hs, rfl⟩
    exact ⟨snippets, hs, (), trivial, rfl⟩

theorem programOf_eq_ok_iff {text formatName output : Text} :
    (programOf text formatName).result = .ok output ↔
      ∃ format recording snippets, OutputFormat.ofName? formatName = some format ∧
        Recording.parse text = .ok recording ∧ Event.HaveSnippets recording.events snippets ∧
        output = format.program recording.header snippets := by
  simp only [programOf, Recording.load, Run.result_bind_eq_ok, Run.result_ofExcept,
    Run.result_notice, Run.result_pure, OutputFormat.find_eq_ok_iff,
    Recording.program_eq_ok_iff]
  constructor
  · rintro ⟨format, hf, recording, ⟨_, hr, _, -, h⟩, snippets, hs, rfl⟩
    cases h
    exact ⟨format, _, snippets, hf, hr, hs, rfl⟩
  · rintro ⟨format, recording, snippets, hf, hr, hs, rfl⟩
    exact ⟨format, hf, recording, ⟨recording, hr, (), trivial, rfl⟩, snippets, hs, rfl⟩

/-- A recording whose events have snippets logs that it was read, what the events log, and that the
program is finished. -/
theorem programOf_eq {text : Text} {recording : Recording} {snippets : List Snippet}
    (hparse : Recording.parse text = .ok recording)
    (hsnippets : Event.HaveSnippets recording.events snippets) (format : OutputFormat) :
    programOf text format.name =
      ⟨.parsed recording.header.browser recording.events.length ::
          (Event.logFrom 1 recording.events ++ [.finished format snippets.length]),
        .ok (format.program recording.header snippets)⟩ := by
  have hprogram : recording.program format =
      ⟨Event.logFrom 1 recording.events ++ [.finished format snippets.length],
        .ok (format.program recording.header snippets)⟩ := by
    rw [Recording.program, snippetsFrom_eq hsnippets, Run.bind_of_ok rfl]
    rfl
  rw [programOf, OutputFormat.find_name, Run.bind_of_ok rfl, Recording.load_of_parse hparse,
    Run.bind_of_ok rfl, hprogram]
  rfl

/-- What comes out in a format, step by step. -/
theorem programOf_result_eq (text : Text) (format : OutputFormat) :
    (programOf text format.name).result = Recording.parse text >>= fun recording =>
      (snippetsFrom 1 recording.events).result >>= fun snippets =>
        .ok (format.program recording.header snippets) := by
  simp only [programOf, Recording.load, Recording.program, Run.result_bind, Run.result_ofExcept,
    Run.result_notice, Run.result_pure, OutputFormat.find_name]
  cases Recording.parse text with
  | error error => rfl
  | ok recording => rfl

end Playback
