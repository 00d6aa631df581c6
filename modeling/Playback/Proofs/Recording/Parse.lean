import Playback.Proofs.Json.HugeNumber
import Playback.Proofs.Recording.Lines
import Playback.Proofs.Text.Lines

/-!
# What comes out of parsing

* `Accepted`: lines whose records are what their places ask for.
* `Recording.Outcome`: what a text is parsed to, said of its lines. `HasHuge`: parsing reaches a
  line that cannot be decoded for the size of a number.
* `Recording.parse_eq_iff`: parsing has exactly these outcomes. `Recording.parse_eq_ok_iff`: when a
  text is a recording.
* `Recording.parse_eq_iff_outcome`: without such numbers, the outcome alone.
* `Recording.parse_isReported_iff`: only such a number gets an error out that is not one of the
  recording.
-/

namespace Playback

/-- Lines whose records are what their places ask for: the first is a header, the others are
events. -/
def Accepted (lines : List Text) : Prop :=
  match recordLinesOf lines with
  | [] => True
  | headerLine :: eventLines => (∃ header, ReadsAs Header.read headerLine header) ∧
      ∀ line ∈ eventLines, ∃ event, ReadsAs Event.read line event

/-- What a text is parsed to. A line is found by the lines in front of it, which give its number. -/
inductive Recording.Outcome (text : Text) : Except Error Recording → Prop
  /-- All lines are blank. -/
  | empty (hlines : ∀ line ∈ text.lines, line.isBlank) : Outcome text (.error .emptyInput)
  /-- The first line that is not blank is no object. -/
  | noObject {before after : List Text} {line : Text} {defect : Defect}
    (hlines : text.lines = before ++ line :: after) (hbefore : ∀ other ∈ before, other.isBlank)
    (hline : line.isBlank = false) (h : NotAnObject line defect) :
    Outcome text (.error (.malformed (before.length + 1) defect []))
  /-- It is an object, and the only line that is not blank. -/
  | headerOnly {line : Text} {members : Json.Members} (hlines : recordLinesOf text.lines = [line])
    (h : DecodesTo line members) : Outcome text (.error (.headerOnly members))
  /-- It is an object and not the only such line, but no header. -/
  | noHeader {before after : List Text} {line : Text} {members : Json.Members}
    {problems : List Problem} (hlines : text.lines = before ++ line :: after)
    (hbefore : ∀ other ∈ before, other.isBlank) (hline : line.isBlank = false)
    (hafter : recordLinesOf after ≠ []) (h : DecodesTo line members)
    (hr : Header.read members = .invalid problems) :
    Outcome text (.error (.malformed (before.length + 1) (.problems problems) members))
  /-- A line behind the header is the first one that is no event. -/
  | noEvent {before after : List Text} {line : Text} {defect : Defect} {record : Json.Members}
    (hlines : text.lines = before ++ line :: after) (hheader : recordLinesOf before ≠ [])
    (hbefore : Accepted before) (hline : line.isBlank = false)
    (h : Refused Event.read line defect record) :
    Outcome text (.error (.malformed (before.length + 1) defect record))
  /-- The first line that is not blank is a header, and each of the others, of which there are some,
  is an event. -/
  | recording {headerLine : Text} {eventLines : List Text} {header : Header} {events : List Event}
    (hlines : recordLinesOf text.lines = headerLine :: eventLines) (hevents : eventLines ≠ [])
    (hh : ReadsAs Header.read headerLine header)
    (he : List.Forall₂ (ReadsAs Event.read) eventLines events) :
    Outcome text (.ok ⟨header, events⟩)

/-- Behind lines that are accepted there is one with a number of so many digits that it is not
read. -/
def HasHuge (text : Text) (digits : Nat) : Prop :=
  ∃ before line after, text.lines = before ++ line :: after ∧ Accepted before ∧
    line.isBlank = false ∧ IsHuge line digits

namespace Recording

variable {text line : Text} {before after : List Text} {number : Nat} {error : Error}
  {rest : List (Text × Nat)}

theorem numberedFrom_eq_nil_iff {first : Nat} {lines : List Text} :
    numberedFrom first lines = [] ↔ ∀ line ∈ lines, line.isBlank := by
  rw [← List.map_eq_nil_iff, map_fst_numberedFrom, recordLinesOf, List.filter_eq_nil_iff]
  simp

theorem accepted_of_blank (h : ∀ line ∈ before, line.isBlank) : Accepted before := by
  have hnone : recordLinesOf before = [] := List.filter_eq_nil_iff.2 (by simpa using h)
  rw [Accepted, hnone]
  trivial

/-- The steps of parsing behind the first record. -/
private theorem parse_of_numberedLines (h : numberedLines text = (line, number) :: rest) :
    parse text = readLine number line >>= fun members =>
      if rest = [] then .error (.headerOnly members)
      else readRecord Header.read number members >>= fun header =>
        rest.mapM (fun entry => readEvent entry.2 entry.1) >>= fun events =>
          .ok ⟨header, events⟩ := by
  unfold parse
  rw [h]
  simp only [bind, Except.bind]
  cases readLine number line with
  | error error => rfl
  | ok members =>
    cases rest <;> rfl

/-- The first record, behind blank lines. -/
private theorem numberedLines_first (hlines : text.lines = before ++ line :: after)
    (hbefore : ∀ other ∈ before, other.isBlank) (hline : line.isBlank = false) :
    numberedLines text =
      (line, before.length + 1) :: numberedFrom (before.length + 1 + 1) after := by
  refine numberedFrom_eq_append_cons_iff.2
    ⟨before, after, hlines, hline, ?_, numberedFrom_eq_nil_iff.2 hbefore, rfl⟩
  exact Nat.add_comm _ _

/-- The error of the first record is that of the text. -/
private theorem parse_of_first (hlines : text.lines = before ++ line :: after)
    (hbefore : ∀ other ∈ before, other.isBlank) (hline : line.isBlank = false)
    (he : readLine (before.length + 1) line = .error error) : parse text = .error error := by
  rw [parse_of_numberedLines (numberedLines_first hlines hbefore hline), he]
  rfl

/-- The error of an event's line behind accepted lines is that of the text. -/
private theorem parse_of_later (hlines : text.lines = before ++ line :: after)
    (hheader : recordLinesOf before ≠ []) (hbefore : Accepted before)
    (hline : line.isBlank = false) (he : readEvent (before.length + 1) line = .error error) :
    parse text = .error error := by
  have hnumbered : numberedLines text = numberedFrom 1 before ++
      (line, before.length + 1) :: numberedFrom (before.length + 1 + 1) after :=
    numberedFrom_eq_append_cons_iff.2 ⟨before, after, hlines, hline, Nat.add_comm _ _, rfl, rfl⟩
  have hrecords := map_fst_numberedFrom 1 before
  cases hfront : numberedFrom 1 before with
  | nil =>
    rw [hfront] at hrecords
    exact absurd hrecords.symm hheader
  | cons entry front =>
    rw [hfront, List.cons_append] at hnumbered
    rw [Accepted, ← hrecords, hfront] at hbefore
    obtain ⟨⟨header, members, hdecodes, hread⟩, hevents⟩ := hbefore
    have hmap : (front ++ (line, before.length + 1) ::
        numberedFrom (before.length + 1 + 1) after).mapM
          (fun entry => readEvent entry.2 entry.1) = .error error := by
      refine mapM_eq_error_iff.2 ⟨front, _, _, rfl, fun other hother => ?_, he⟩
      obtain ⟨event, hevent⟩ := hevents other.1 (List.mem_map_of_mem hother)
      exact ⟨event, readEvent_eq_ok_iff.2 hevent⟩
    rw [parse_of_numberedLines hnumbered, readLine_eq_ok_iff.2 hdecodes, ok_bind,
      if_neg (by simp), readRecord_eq_ok_iff.2 hread, ok_bind, hmap]
    rfl

/-- Every outcome is that of parsing. -/
theorem parse_of_outcome {result : Except Error Recording} (h : Outcome text result) :
    parse text = result := by
  -- one case for each way in which a text ends, in the order in which parsing meets them
  cases h with
  | empty hlines =>
    have hnone : numberedLines text = [] := numberedFrom_eq_nil_iff.2 hlines
    rw [parse, hnone]
  | noObject hlines hbefore hline h =>
    exact parse_of_first hlines hbefore hline (readLine_of_notAnObject h _)
  | @headerOnly line members hlines h =>
    have hrecords := map_fst_numberedFrom 1 text.lines
    rw [hlines] at hrecords
    obtain ⟨⟨only, number⟩, hnumbered, rfl⟩ := List.map_eq_singleton_iff.1 hrecords
    rw [parse_of_numberedLines hnumbered, readLine_eq_ok_iff.2 h]
    rfl
  | @noHeader before after line members problems hlines hbefore hline hafter h hr =>
    -- without a further line the text would have a header only
    have hmore : numberedFrom (before.length + 1 + 1) after ≠ [] := by
      intro hnone
      rw [← map_fst_numberedFrom (before.length + 1 + 1), hnone] at hafter
      exact hafter rfl
    rw [parse_of_numberedLines (numberedLines_first hlines hbefore hline),
      readLine_eq_ok_iff.2 h, ok_bind, if_neg hmore,
      readRecord_eq_error_iff.2 ⟨problems, hr, rfl⟩]
    rfl
  | noEvent hlines hheader hbefore hline h =>
    exact parse_of_later hlines hheader hbefore hline
      (readEvent_eq_error_iff.2 (.inl ⟨_, _, h, rfl⟩))
  | @recording headerLine eventLines header events hlines hevents hh he =>
    have hrecords := map_fst_numberedFrom 1 text.lines
    rw [hlines] at hrecords
    obtain ⟨⟨first, number⟩, rest, hnumbered, rfl, hrest⟩ := List.map_eq_cons_iff.1 hrecords
    obtain ⟨members, hdecodes, hread⟩ := hh
    have hmore : rest ≠ [] := by
      rintro rfl
      exact hevents hrest.symm
    have hmap : rest.mapM (fun entry => readEvent entry.2 entry.1) = .ok events := by
      rw [← hrest, List.forall₂_map_left_iff] at he
      exact mapM_eq_ok_iff.2 (he.imp fun entry event => readEvent_eq_ok_iff.2)
    rw [parse_of_numberedLines hnumbered, readLine_eq_ok_iff.2 hdecodes, ok_bind,
      if_neg hmore, readRecord_eq_ok_iff.2 hread, ok_bind, hmap]
    rfl

/-- A number that is not read is the error of the text. -/
theorem parse_of_hasHuge {digits : Nat} (h : HasHuge text digits) :
    parse text = .error (.integer (.tooManyDigits digits)) := by
  obtain ⟨before, line, after, hlines, haccepted, hline, hhuge⟩ := h
  by_cases hrecords : recordLinesOf before = []
  · have hbefore : ∀ other ∈ before, other.isBlank := by
      simpa using List.filter_eq_nil_iff.1 hrecords
    exact parse_of_first hlines hbefore hline (readLine_of_isHuge hhuge _)
  · exact parse_of_later hlines hrecords haccepted hline
      (readEvent_eq_error_iff.2 (.inr ⟨digits, hhuge, rfl⟩))

/-- What is behind a header up to the first line that is no event. -/
private theorem outcome_of_later (hnumbered : numberedLines text = (line, number) :: rest)
    (hheader : ∃ header, ReadsAs Header.read line header)
    (hevents : rest.mapM (fun entry => readEvent entry.2 entry.1) = .error error) :
    Outcome text (parse text) ∨ ∃ digits, HasHuge text digits := by
  obtain ⟨front, ⟨bad, position⟩, back, rfl, hfront, hbad⟩ := mapM_eq_error_iff.1 hevents
  have hsplit : numberedFrom 1 text.lines =
      ((line, number) :: front) ++ (bad, position) :: back := hnumbered
  obtain ⟨before, after, hlines, hline, -, hbefore, -⟩ :=
    numberedFrom_eq_append_cons_iff.1 hsplit
  have hrecords := map_fst_numberedFrom 1 before
  rw [hbefore, List.map_cons] at hrecords
  have haccepted : Accepted before := by
    rw [Accepted, ← hrecords]
    refine ⟨hheader, fun other hother => ?_⟩
    obtain ⟨entry, hentry, rfl⟩ := List.mem_map.1 hother
    obtain ⟨event, hevent⟩ := hfront entry hentry
    exact ⟨event, readEvent_eq_ok_iff.1 hevent⟩
  rcases readEvent_eq_error_iff.1 hbad with ⟨defect, record, hr, -⟩ | ⟨digits, hhuge, -⟩
  · have hnonempty : recordLinesOf before ≠ [] := by simp [← hrecords]
    have houtcome := Outcome.noEvent hlines hnonempty haccepted hline hr
    rw [parse_of_outcome houtcome]
    exact .inl houtcome
  · exact .inr ⟨digits, before, bad, after, hlines, haccepted, hline, hhuge⟩

/-- Parsing has an outcome, unless it reaches a number that is not read. -/
theorem outcome_or_hasHuge (text : Text) :
    Outcome text (parse text) ∨ ∃ digits, HasHuge text digits := by
  have hknown {result : Except Error Recording} (h : Outcome text result) :
      Outcome text (parse text) := (parse_of_outcome h).symm ▸ h
  cases hnumbered : numberedLines text with
  | nil => exact .inl (hknown (.empty (numberedFrom_eq_nil_iff.1 hnumbered)))
  | cons entry rest =>
    obtain ⟨line, number⟩ := entry
    have hfirst : numberedFrom 1 text.lines = [] ++ (line, number) :: rest := hnumbered
    obtain ⟨before, after, hlines, hline, -, hnone, hrest⟩ :=
      numberedFrom_eq_append_cons_iff.1 hfirst
    have hbefore := numberedFrom_eq_nil_iff.1 hnone
    have hrecords := map_fst_numberedFrom 1 text.lines
    rw [← numberedLines_eq, hnumbered, List.map_cons] at hrecords
    have hafter := map_fst_numberedFrom (number + 1) after
    rw [hrest] at hafter
    rcases readLine_cases line with ⟨members, hd⟩ | ⟨defect, hd⟩ | ⟨digits, hd⟩
    · by_cases hmore : rest = []
      · rw [hmore] at hrecords
        exact .inl (hknown (.headerOnly hrecords.symm hd))
      cases hheader : Header.read members with
      | invalid problems =>
        have hnonempty : recordLinesOf after ≠ [] := by
          rw [← hafter]
          simpa using hmore
        exact .inl (hknown (.noHeader hlines hbefore hline hnonempty hd hheader))
      | valid header =>
        cases hevents : rest.mapM fun entry => readEvent entry.2 entry.1 with
        | ok events =>
          have hall := (mapM_eq_ok_iff.1 hevents).imp fun _ _ => readEvent_eq_ok_iff.1
          refine .inl (hknown (.recording hrecords.symm (by simpa using hmore)
            ⟨members, hd, hheader⟩ (List.forall₂_map_left_iff.2 hall)))
        | error error =>
          exact outcome_of_later hnumbered ⟨header, members, hd, hheader⟩ hevents
    · exact .inl (hknown (.noObject hlines hbefore hline hd))
    · exact .inr ⟨digits, before, line, after, hlines, accepted_of_blank hbefore, hline, hd⟩

/-- All that comes out of parsing. -/
theorem parse_eq_iff {result : Except Error Recording} : parse text = result ↔
    Outcome text result ∨
      ∃ digits, HasHuge text digits ∧ result = .error (.integer (.tooManyDigits digits)) := by
  constructor
  · rintro rfl
    rcases outcome_or_hasHuge text with h | ⟨digits, h⟩
    · exact .inl h
    · exact .inr ⟨digits, h, parse_of_hasHuge h⟩
  · rintro (h | ⟨digits, h, rfl⟩)
    · exact parse_of_outcome h
    · exact parse_of_hasHuge h

/-- A text is a recording if its first line that is not blank is a header, and each of the others,
of which there are some, is an event. -/
theorem parse_eq_ok_iff {recording : Recording} : parse text = .ok recording ↔
    ∃ headerLine eventLines, recordLinesOf text.lines = headerLine :: eventLines ∧
      eventLines ≠ [] ∧ ReadsAs Header.read headerLine recording.header ∧
      List.Forall₂ (ReadsAs Event.read) eventLines recording.events := by
  constructor
  · intro h
    rcases parse_eq_iff.1 h with houtcome | ⟨digits, -, herror⟩
    · cases houtcome with
      | recording hlines hevents hh he => exact ⟨_, _, hlines, hevents, hh, he⟩
    · cases herror
  · rintro ⟨headerLine, eventLines, hlines, hevents, hh, he⟩
    exact parse_of_outcome (.recording hlines hevents hh he)

/-- Where every line is JSON or breaks its syntax, parsing has exactly the outcomes that are said of
the lines: nothing is skipped, reordered, merged or repeated, and the first line that is not what it
should be is named. -/
theorem parse_eq_iff_outcome {text : Text}
    (h : ∀ line ∈ text.lines, ∀ digits, Json.decode line ≠ .error (.hugeNumber digits))
    {result : Except Error Recording} : parse text = result ↔ Outcome text result := by
  rw [parse_eq_iff]
  refine or_iff_left ?_
  rintro ⟨digits, ⟨before, line, after, hlines, -, -, hhuge⟩, -⟩
  exact h line (by simp [hlines]) digits hhuge

/-- A recording with blank lines in front of every record. -/
def spacedText : Text :=
  "\n\x7b\x7d\n \n\x7b\"name\": \"check\"\x7d\n\n\x7b\"name\": \"press\"\x7d\n"

/-- The lines that are not blank are the header and the events, in order. -/
theorem outcome_spacedText : ∃ recording, Outcome spacedText (.ok recording) ∧
    recording.events.map Event.name = (["check", "press"] : List Text) := by
  have hshort : ∀ line ∈ spacedText.lines, line.length ≤ Integer.maxDigits := by decide +kernel
  have hsyntax : ∀ line ∈ spacedText.lines, ∀ digits,
      Json.decode line ≠ .error (.hugeNumber digits) := fun line hline digits hhuge =>
    absurd (Json.digits_of_decode hhuge).lt_length (Nat.not_lt.2 (hshort line hline))
  have hparse : (parse spacedText).toOption.map (fun recording => recording.events.map Event.name) =
      some (["check", "press"] : List Text) := by decide +kernel
  obtain ⟨recording, hresult, hnames⟩ := Option.map_eq_some_iff.1 hparse
  exact ⟨recording, (parse_eq_iff_outcome hsyntax).1 (toOption_eq_some_iff.1 hresult), hnames⟩

/-- A result that stays with the recording: the recording itself, or an error that says what is
wrong with it. One that concerns a line has the number of a line that is not blank. -/
inductive IsReported (text : Text) : Except Error Recording → Prop
  | recording (recording : Recording) : IsReported text (.ok recording)
  | emptyInput : IsReported text (.error .emptyInput)
  | headerOnly (members : Json.Members) : IsReported text (.error (.headerOnly members))
  | malformed {before after : List Text} {line : Text}
    (hlines : text.lines = before ++ line :: after) (hline : line.isBlank = false)
    (defect : Defect) (record : Json.Members) :
    IsReported text (.error (.malformed (before.length + 1) defect record))

theorem Outcome.isReported {result : Except Error Recording} (h : Outcome text result) :
    IsReported text result := by
  cases h with
  | empty => exact .emptyInput
  | noObject hlines _ hline => exact .malformed hlines hline _ _
  | headerOnly => exact .headerOnly _
  | noHeader hlines _ hline => exact .malformed hlines hline _ _
  | noEvent hlines _ _ hline => exact .malformed hlines hline _ _
  | recording => exact .recording _

/-- The result of parsing stays with the recording, unless the first line that cannot be read is one
with a whole number of too many digits. Then the error is about these and names no line. -/
theorem parse_isReported_iff (text : Text) :
    (IsReported text (parse text) ↔ ¬ ∃ digits, HasHuge text digits) ∧
    (∀ digits, parse text = .error (.integer (.tooManyDigits digits)) ↔ HasHuge text digits) ∧
    ∀ digits, HasHuge text digits → ∃ line ∈ text.lines, Json.HasDigits line digits := by
  have hinteger {digits : Nat} : ¬ IsReported text (.error (.integer (.tooManyDigits digits))) := by
    intro h
    cases h
  refine ⟨⟨?_, ?_⟩, fun digits => ⟨?_, parse_of_hasHuge⟩, ?_⟩
  · rintro h ⟨digits, hhuge⟩
    rw [parse_of_hasHuge hhuge] at h
    exact hinteger h
  · intro h
    rcases outcome_or_hasHuge text with houtcome | hhuge
    · exact houtcome.isReported
    · exact absurd hhuge h
  · intro h
    rcases parse_eq_iff.1 h with houtcome | ⟨other, hhuge, hother⟩
    · exact absurd houtcome.isReported hinteger
    · cases hother
      exact hhuge
  · rintro digits ⟨before, line, after, hlines, -, -, hhuge⟩
    exact ⟨line, by simp [hlines], Json.digits_of_decode hhuge⟩

/-- A recording whose header has a number of a one and further digits. -/
def longNumberText (digits : Text) : Text :=
  Json.longMember digits ++ .char '\n' :: "\x7b\"name\": \"check\"\x7d"

theorem hasHuge_longNumberText {digits : Text} (hdigits : ∀ p ∈ digits, p.isAsciiDigit)
    (h : Integer.maxDigits ≤ digits.length) :
    HasHuge (longNumberText digits) (digits.length + 1) := by
  have hline : ∀ p ∈ Json.longMember digits, p.endsLine = false := by
    unfold Json.longMember
    simp only [List.forall_mem_cons, List.forall_mem_append]
    refine ⟨by decide, by decide, by decide, by decide, by decide, by decide, ?_, by decide,
      by simp⟩
    exact fun p hp => CodePoint.endsLine_of_isAsciiDigit (hdigits p hp)
  refine ⟨[], Json.longMember digits, _, Text.lines_append_lineFeed hline _, trivial, ?_,
    Json.decode_longMember hdigits h⟩
  rfl

/-- A header with a number of 4301 digits ends parsing with an error that names no line. -/
theorem not_isReported_longNumber :
    let text := longNumberText (List.replicate 4300 (.char '1'))
    ¬ IsReported text (parse text) := by
  intro text h
  have hdigits : ∀ p ∈ List.replicate 4300 (CodePoint.char '1'), p.isAsciiDigit := by
    intro p hp
    rw [List.eq_of_mem_replicate hp]
    decide
  have hlong : Integer.maxDigits ≤ (List.replicate 4300 (CodePoint.char '1')).length := by
    rw [List.length_replicate]
    decide
  rw [parse_of_hasHuge (hasHuge_longNumberText hdigits hlong)] at h
  cases h

end Recording

end Playback
