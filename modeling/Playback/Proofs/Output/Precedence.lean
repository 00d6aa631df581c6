import Playback.Proofs.Code.Snippet
import Playback.Proofs.Event.Target
import Playback.Proofs.Output.Declared

/-!
# Which of selector and description a program is made from

A description that has a locator decides, and the selector beside it is not looked at. One that has
none is passed over with a warning, and then all is as if it were not there. Where there is neither,
the empty selector is looked for, with one warning too.

* `Text.HoldsRecords.exists_around`: the program of a text and its log, as they depend on one event.
* `programOf_precedence`: what becomes of the program and of the log if the selector beside a
  description with a locator is replaced, or a description without one is taken away, and what they
  are where an event has neither.
-/

namespace Playback

section Around

variable {text : Text} {header members : Json.Members} {before after : List Json.Members}
  {event : Event} {formatName output : Text}

/-- All that the program of a text and its log take from one event, where its name stays, is the
snippet of the event and what is logged about its target. -/
theorem Text.HoldsRecords.exists_around
    (htext : text.HoldsRecords header (before ++ members :: after))
    (hread : Event.read members = .valid event)
    (houtput : (programOf text formatName).result = .ok output) :
    (∃ snippet, event.snippet.result = .ok snippet) ∧
      ∃ (front : Log) (back : OutputFormat → Log) (program : OutputFormat → Snippet → Text),
        (∀ format, ∀ notice ∈ (back format).head?, notice.level = Level.debug) ∧
        ∀ other members' event' snippet,
          Text.HoldsRecords other header (before ++ members' :: after) →
          Event.read members' = .valid event' → event'.name = event.name →
          event'.snippet.result = .ok snippet → ∀ format,
            programOf other format.name =
              ⟨front ++ .started (before.length + 1) event.name ::
                  (event'.targetLog ++ back format),
                .ok (program format snippet)⟩ := by
  obtain ⟨_, recording, snippets, -, hparse, hsnippets, -⟩ := programOf_eq_ok_iff.1 houtput
  obtain ⟨-, hheader, hevents⟩ := htext.parse_eq_ok_iff.1 hparse
  obtain ⟨eventsBefore, _, hsplit, hbefore, hrest⟩ := forall₂_append_iff.1 hevents
  obtain ⟨_, eventsAfter, hevent, hafter, rfl⟩ := List.forall₂_cons_left_iff.1 hrest
  cases hread.symm.trans hevent
  -- the snippets are split where the events are
  rw [hsplit] at hsnippets
  obtain ⟨snippetsBefore, _, -, hcodeBefore, hcode⟩ := forall₂_append_iff.1 hsnippets
  obtain ⟨own, snippetsAfter, hown, hcodeAfter, -⟩ := List.forall₂_cons_left_iff.1 hcode
  refine ⟨⟨own, hown⟩,
    .parsed recording.header.browser (before.length + (after.length + 1)) ::
      Event.logFrom 1 eventsBefore,
    fun format => Event.logFrom (1 + before.length + 1) eventsAfter ++
      [.finished format (before.length + (after.length + 1))],
    fun format snippet =>
      format.program recording.header (snippetsBefore ++ snippet :: snippetsAfter), ?_, ?_⟩
  · intro format notice hnotice
    cases eventsAfter with
    | nil =>
      cases hnotice
      rfl
    | cons next eventsAfter =>
      cases hnotice
      rfl
  · -- the other text is parsed and translated part by part like this one
    intro other members' event' snippet hother hread' hname hsnippet format
    have hparse' : Recording.parse other =
        .ok ⟨recording.header, eventsBefore ++ event' :: eventsAfter⟩ :=
      hother.parse_eq_ok_iff.2 ⟨by simp, hheader,
        forall₂_append_iff.2 ⟨_, _, rfl, hbefore, .cons hread' hafter⟩⟩
    have hcode' : Event.HaveSnippets (eventsBefore ++ event' :: eventsAfter)
        (snippetsBefore ++ snippet :: snippetsAfter) :=
      forall₂_append_iff.2 ⟨_, _, rfl, hcodeBefore, .cons hsnippet hcodeAfter⟩
    have hevents' : (eventsBefore ++ event' :: eventsAfter).length =
        before.length + (after.length + 1) := by
      rw [List.length_append, List.length_cons, hbefore.length_eq, hafter.length_eq]
    have hsnippets' : (snippetsBefore ++ snippet :: snippetsAfter).length =
        before.length + (after.length + 1) := by
      rw [← hcode'.length_eq, hevents']
    rw [programOf_eq hparse' hcode' format, hsnippets']
    simp only [hevents', Event.logFrom_append, Event.logFrom, Event.snippet_eq_of_ok hsnippet,
      hname, ← hbefore.length_eq, List.cons_append, List.append_assoc, Nat.add_comm 1]

end Around

/-! ## A recording with a target of each kind -/

/-- A click with a selector beside a description that has a locator. -/
def describedClick : Json.Members :=
  [("name", .text "click"), ("selector", .text "#go"),
    ("locator", .object [("role", .text "button")])]

/-- A hover with a selector beside a description that has none. -/
def passedOverHover : Json.Members :=
  [("name", .text "hover"), ("selector", .text "a"),
    ("locator", .object [("unexpected", .number (.int 1))])]

/-- A check of nothing. -/
def aimlessCheck : Json.Members := [("name", .text "check")]

end Playback
