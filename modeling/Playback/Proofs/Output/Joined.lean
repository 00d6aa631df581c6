import Playback.Proofs.Output.BodyLines
import Playback.Proofs.Recording.Parse

/-!
# Recordings one behind the other

The body of a program is made event by event, so that the records of two recordings with the same
header, one behind the other, have the two bodies one behind the other.

* `recordLinesOf_append`: the records of two texts with a line feed between them are those of both,
  whatever the first one ends and the second one begins with.
* `programOf_behind_iff`: the body of a recording, said of the records behind its header.
* `programOf_joined_iff`: the body of the joined recording.
-/

namespace Playback

/-! ## The records of joined texts -/

theorem recordLinesOf_append (front back : Text) :
    recordLinesOf (Text.lines (front ++ "\n" ++ back)) =
      recordLinesOf front.lines ++ recordLinesOf back.lines := by
  have hfeed : front ++ "\n" ++ back = front ++ .char '\n' :: back := by simp [Text.ofString]
  have hempty : Text.isBlank [] := rfl
  rw [hfeed, recordLinesOf, recordLinesOf, recordLinesOf]
  rcases Text.lines_append_lineFeed_append front back with h | h
  · rw [h, List.filter_append]
  · rw [h, List.filter_append, List.filter_cons_of_neg (by simp [hempty])]

/-- A line in front of a text is the first record of both. -/
theorem recordLinesOf_line_append {line : Text} (hends : ∀ p ∈ line, p.endsLine = false)
    (hblank : line.isBlank = false) (text : Text) :
    recordLinesOf (Text.lines (line ++ "\n" ++ text)) = line :: recordLinesOf text.lines := by
  have hne : line ≠ [] := by
    rintro rfl
    cases hblank
  rw [recordLinesOf_append, Text.lines_of_ne_nil hne hends, recordLinesOf,
    List.filter_cons_of_pos (by simp [hblank])]
  rfl

theorem recordLinesOf_ne_nil {text : Text} (h : ∃ line ∈ text.lines, line.isBlank = false) :
    recordLinesOf text.lines ≠ [] := by
  obtain ⟨line, hline, hblank⟩ := h
  exact List.ne_nil_of_mem (List.mem_filter.2 ⟨hline, by simp [hblank]⟩)

/-! ## The bodies of joined recordings -/

/-- The lines are events with these snippets. -/
def HaveCode (lines : List Text) (snippets : List Snippet) : Prop :=
  ∃ events, List.Forall₂ (ReadsAs Event.read) lines events ∧ Event.HaveSnippets events snippets

theorem haveCode_append_iff {front back : List Text} {snippets : List Snippet} :
    HaveCode (front ++ back) snippets ↔ ∃ first second, snippets = first ++ second ∧
      HaveCode front first ∧ HaveCode back second := by
  constructor
  · rintro ⟨events, hread, hsnippets⟩
    obtain ⟨before, after, rfl, hbefore, hafter⟩ := forall₂_append_iff.1 hread
    obtain ⟨first, second, rfl, hfirst, hsecond⟩ := forall₂_append_iff.1 hsnippets
    exact ⟨first, second, rfl, ⟨before, hbefore, hfirst⟩, ⟨after, hafter, hsecond⟩⟩
  · rintro ⟨first, second, rfl, ⟨before, hbefore, hfirst⟩, ⟨after, hafter, hsecond⟩⟩
    exact ⟨before ++ after, List.rel_append hbefore hafter, List.rel_append hfirst hsecond⟩

theorem HaveCode.linesOf_ne_nil {lines : List Text} {snippets : List Snippet}
    (h : HaveCode lines snippets) (hne : lines ≠ []) : Snippet.linesOf snippets ≠ [] := by
  obtain ⟨events, hread, hsnippets⟩ := h
  refine Snippet.linesOf_ne_nil hsnippets ?_
  rintro rfl
  exact hne (List.forall₂_nil_right_iff.1 hread)

section Bodies

variable {header : Text} (hends : ∀ p ∈ header, p.endsLine = false)
  (hblank : header.isBlank = false)
include hends hblank

/-- The body of a recording whose first line is `header`. -/
theorem programOf_behind_iff {text output : Text} (hsome : recordLinesOf text.lines ≠ []) :
    (programOf (header ++ "\n" ++ text) "body").result = .ok output ↔
      (∃ value, ReadsAs Header.read header value) ∧ ∃ snippets,
        HaveCode (recordLinesOf text.lines) snippets ∧
        output = Text.joined "\n" (Snippet.linesOf snippets) := by
  have hrecords := recordLinesOf_line_append hends hblank text
  rw [programOf_eq_ok_iff]
  constructor
  · rintro ⟨format, recording, snippets, hformat, hparse, hsnippets, rfl⟩
    cases hformat
    obtain ⟨headerLine, eventLines, hlines, -, hh, he⟩ := Recording.parse_eq_ok_iff.1 hparse
    rw [hrecords] at hlines
    cases hlines
    exact ⟨⟨_, hh⟩, snippets, ⟨_, he, hsnippets⟩, rfl⟩
  · rintro ⟨⟨value, hh⟩, snippets, ⟨events, he, hsnippets⟩, rfl⟩
    refine ⟨.body, ⟨value, events⟩, snippets, rfl, ?_, hsnippets, rfl⟩
    exact Recording.parse_eq_ok_iff.2 ⟨_, _, hrecords, hsome, hh, he⟩

/-- Two recordings with the same header have bodies exactly if the recording of the header and the
records of both has one, and that is the two bodies one behind the other. -/
theorem programOf_joined_iff {front back : Text}
    (hfront : ∃ line ∈ front.lines, line.isBlank = false)
    (hback : ∃ line ∈ back.lines, line.isBlank = false) {output : Text} :
    (programOf (header ++ "\n" ++ front ++ "\n" ++ back) "body").result = .ok output ↔
      ∃ first second, (programOf (header ++ "\n" ++ front) "body").result = .ok first ∧
        (programOf (header ++ "\n" ++ back) "body").result = .ok second ∧
        output = first ++ "\n" ++ second := by
  have hf := recordLinesOf_ne_nil hfront
  have hb := recordLinesOf_ne_nil hback
  have hjoined : header ++ "\n" ++ front ++ "\n" ++ back =
      header ++ "\n" ++ (front ++ "\n" ++ back) := by simp only [List.append_assoc]
  have hsome : recordLinesOf (Text.lines (front ++ "\n" ++ back)) ≠ [] := by
    rw [recordLinesOf_append]
    exact List.append_ne_nil_of_left_ne_nil hf _
  have hbody {first second : List Snippet} (h : HaveCode (recordLinesOf front.lines) first)
      (h' : HaveCode (recordLinesOf back.lines) second) :
      Text.joined "\n" (Snippet.linesOf (first ++ second)) =
        Text.joined "\n" (Snippet.linesOf first) ++ "\n" ++
          Text.joined "\n" (Snippet.linesOf second) := by
    rw [Snippet.linesOf, List.flatMap_append]
    exact Text.joined_append "\n" (h.linesOf_ne_nil hf) (h'.linesOf_ne_nil hb)
  rw [hjoined, programOf_behind_iff hends hblank hsome, recordLinesOf_append]
  simp only [haveCode_append_iff, programOf_behind_iff hends hblank hf,
    programOf_behind_iff hends hblank hb]
  constructor
  · rintro ⟨hheader, _, ⟨first, second, rfl, hfirst, hsecond⟩, rfl⟩
    exact ⟨_, _, ⟨hheader, first, hfirst, rfl⟩, ⟨hheader, second, hsecond, rfl⟩,
      hbody hfirst hsecond⟩
  · rintro ⟨_, _, ⟨hheader, first, hfirst, rfl⟩, ⟨-, second, hsecond, rfl⟩, rfl⟩
    exact ⟨hheader, _, ⟨first, second, rfl, hfirst, hsecond⟩, (hbody hfirst hsecond).symm⟩

end Bodies

/-- The first recording ends with a carriage return, which ends its line together with the line feed
behind it, and the second one begins with a blank line. -/
theorem programOf_joined_returned :
    (programOf ("\x7b\x7d" ++ "\n" ++ "\x7b\"name\": \"closePage\"\x7d\r" ++ "\n" ++
      "\n\x7b\"name\": \"navigate\", \"url\": \"a\"\x7d") "body").result =
      .ok ("pg.close()" ++ "\n" ++ "pg.goto(\"a\")") := by
  have hends : ∀ p ∈ ("\x7b\x7d" : Text), p.endsLine = false := by decide
  refine (programOf_joined_iff hends (by decide) (by decide +kernel) (by decide +kernel)).2
    ⟨"pg.close()", "pg.goto(\"a\")", ?_, ?_, rfl⟩
  · exact toOption_eq_some_iff.1 (by decide +kernel)
  · exact toOption_eq_some_iff.1 (by decide +kernel)

end Playback
