import Playback.Proofs.Json.WrittenLines
import Playback.Proofs.Recording.Parse

/-!
# Recordings that are written and read

* `Recording.written`: records as a recording, one on each line.
* `Recording.HasRecords`: the recording is what its records are read as.
* `Recording.parse_written`: what is written is read as the recording, if no text of it has a
  character that ends a line and is not escaped.
* `Recording.parse_written_cut`: else the first record with such a character is the error.
* `Recording.parse_written_iff`: both in one.
-/

namespace Playback

namespace Recording

/-- The line of a record. -/
def recordLine (gap : Text) (record : Json.Members) : Text := (Json.object record).written gap

/-- Records as a recording, one on each line. -/
def written (gap : Text) (records : List Json.Members) : Text :=
  Text.joined "\n" (records.map (recordLine gap))

/-- The record can be written, and it is read as `value`. -/
def IsRecordOf {α : Type} (read : Json.Members → Checked α) (record : Json.Members) (value : α) :
    Prop := (Json.object record).IsWritable ∧ read record = .valid value

/-- The recording is what its records are read as: the first as the header, and the others, of which
there are some, as the events, in order. -/
structure HasRecords (recording : Recording) (headerRecord : Json.Members)
    (eventRecords : List Json.Members) : Prop where
  header : IsRecordOf Header.read headerRecord recording.header
  events : List.Forall₂ (IsRecordOf Event.read) eventRecords recording.events
  ne_nil : eventRecords ≠ []

section Records

variable {α : Type} {read : Json.Members → Checked α} {gap : Text} {record : Json.Members}

theorem IsRecordOf.readsAs (hgap : ∀ p ∈ gap, p = .char ' ') {value : α}
    (h : IsRecordOf read record value) : ReadsAs read (recordLine gap record) value :=
  ⟨record, Json.decode_written (fun p hp => hgap p hp ▸ rfl) h.1, h.2⟩

/-- Each of the records is read. -/
theorem exists_isRecordOf {records : List Json.Members} {values : List α}
    (h : List.Forall₂ (IsRecordOf read) records values) (hmem : record ∈ records) :
    ∃ value, IsRecordOf read record value := by
  have hall : ∀ record ∈ records, ∃ value, IsRecordOf read record value :=
    forall_left_of_forall₂ h fun _ value hvalue => ⟨value, hvalue⟩
  exact hall record hmem

theorem isBlank_brace (rest : Text) : Text.isBlank (.char '\x7b' :: rest) = false := rfl

/-- The line of a record is not blank. -/
theorem isBlank_recordLine (gap : Text) (record : Json.Members) :
    (recordLine gap record).isBlank = false := by
  obtain ⟨rest, hbrace⟩ := Json.exists_written_object gap record
  rw [recordLine, hbrace, isBlank_brace]

theorem recordLinesOf_map (gap : Text) (records : List Json.Members) :
    recordLinesOf (records.map (recordLine gap)) =
      records.map (recordLine gap) := by
  refine List.filter_eq_self.2 (List.forall_mem_map.2 fun record _ => ?_)
  rw [isBlank_recordLine]
  rfl

/-- The line of a record without line ends in its texts has none. -/
theorem endsLine_of_mem_recordLine (hgap : ∀ p ∈ gap, p = .char ' ')
    (h : (Json.object record).IsWritable) (hend : (Json.object record).hasLineEnd = false) :
    ∀ p ∈ recordLine gap record, p.endsLine = false := by
  rw [← Json.any_endsLine_written hgap h] at hend
  simpa [recordLine] using hend

end Records

section Written

variable {gap : Text} {recording : Recording} {headerRecord record : Json.Members}
  {eventRecords before after : List Json.Members}

theorem HasRecords.isWritable (h : recording.HasRecords headerRecord eventRecords) :
    ∀ record ∈ headerRecord :: eventRecords, (Json.object record).IsWritable := by
  refine List.forall_mem_cons.2 ⟨h.header.1, fun record hmem => ?_⟩
  obtain ⟨event, hevent⟩ := exists_isRecordOf h.events hmem
  exact hevent.1

/-- The first records of a recording are accepted. -/
theorem HasRecords.accepted (hgap : ∀ p ∈ gap, p = .char ' ')
    (h : recording.HasRecords headerRecord eventRecords)
    (hrecords : headerRecord :: eventRecords = before ++ record :: after) :
    Accepted (before.map (recordLine gap)) := by
  rw [Accepted, recordLinesOf_map]
  cases before with
  | nil => trivial
  | cons first before =>
    obtain ⟨rfl, rfl⟩ := List.cons_eq_cons.1 hrecords
    refine ⟨⟨_, h.header.readsAs hgap⟩, List.forall_mem_map.2 fun other hother => ?_⟩
    obtain ⟨event, hevent⟩ := exists_isRecordOf h.events (List.mem_append_left _ hother)
    exact ⟨event, hevent.readsAs hgap⟩

/-- The lines of written records without line ends in their texts are those of the records. -/
theorem lines_written {records : List Json.Members} (hgap : ∀ p ∈ gap, p = .char ' ')
    (h : ∀ record ∈ records, (Json.object record).IsWritable)
    (hend : ∀ record ∈ records, (Json.object record).hasLineEnd = false) :
    (written gap records).lines = records.map (recordLine gap) := by
  refine Text.lines_joined (List.forall_mem_map.2 fun record _ hnil => ?_)
    (List.forall_mem_map.2 fun record hmem =>
      endsLine_of_mem_recordLine hgap (h record hmem) (hend record hmem))
  have hblank := isBlank_recordLine gap record
  rw [hnil] at hblank
  cases hblank

/-- Records without line ends in their texts are read as the recording. -/
theorem parse_written (hgap : ∀ p ∈ gap, p = .char ' ')
    (h : recording.HasRecords headerRecord eventRecords)
    (hend : ∀ record ∈ headerRecord :: eventRecords, (Json.object record).hasLineEnd = false) :
    parse (written gap (headerRecord :: eventRecords)) = .ok recording := by
  have hlines := lines_written hgap h.isWritable hend
  have hevents : List.Forall₂ (ReadsAs Event.read)
      (eventRecords.map (recordLine gap)) recording.events :=
    List.forall₂_map_left_iff.2 (h.events.imp fun _ _ => IsRecordOf.readsAs hgap)
  refine parse_of_outcome (.recording ?_ ?_ (h.header.readsAs hgap) hevents)
  · rw [hlines, recordLinesOf_map, List.map_cons]
  · simpa using h.ne_nil

/-- The lines up to the first line end in a text: the records in front, and the record in which it
is, cut there. -/
theorem lines_written_cut (after : List Json.Members) (hgap : ∀ p ∈ gap, p = .char ' ')
    (hwritable : ∀ other ∈ before, (Json.object other).IsWritable)
    (hbefore : ∀ other ∈ before, (Json.object other).hasLineEnd = false)
    (h : (Json.object record).IsWritable) (hend : (Json.object record).hasLineEnd) :
    ∃ line rest fault, (written gap (before ++ record :: after)).lines =
        (before.map (recordLine gap)) ++ line :: rest ∧
      line.isBlank = false ∧ Json.decode line = .error (.text fault) := by
  obtain ⟨rest, p, back, fault, hcut, hrest, hp, hdecode⟩ := Json.exists_cut hgap h hend
  have hline : ∀ q ∈ CodePoint.char '\x7b' :: rest, q.endsLine = false :=
    List.forall_mem_cons.2 ⟨rfl, by simpa using hrest⟩
  have hreturn : p ≠ .char '\r' := by
    rintro rfl
    cases hp
  have hfront := Text.lines_joined_append (List.forall_mem_map.2 fun other hother =>
    endsLine_of_mem_recordLine hgap (hwritable other hother) (hbefore other hother))
  have hrecord := Text.lines_append_cons hline (CodePoint.endsLine_of_isRawLineEnd hp) hreturn
    (back ++ (after.map (recordLine gap)).flatMap (("\n" : Text) ++ ·))
  have hlines : (written gap (before ++ record :: after)).lines =
      before.map (recordLine gap) ++ (.char '\x7b' :: rest) ::
        Text.lines (back ++ (after.map (recordLine gap)).flatMap (("\n" : Text) ++ ·)) := by
    rw [written, List.map_append, List.map_cons, hfront, Text.joined_cons, recordLine, hcut,
      List.append_assoc]
    exact congrArg (before.map (recordLine gap) ++ ·) hrecord
  exact ⟨_, _, fault, hlines, isBlank_brace rest, hdecode⟩

/-- The first record with a line end in a text is no record, and that is the error. -/
theorem parse_written_cut (hgap : ∀ p ∈ gap, p = .char ' ')
    (h : recording.HasRecords headerRecord eventRecords)
    (hrecords : headerRecord :: eventRecords = before ++ record :: after)
    (hbefore : ∀ other ∈ before, (Json.object other).hasLineEnd = false)
    (hend : (Json.object record).hasLineEnd) :
    ∃ fault, parse (written gap (headerRecord :: eventRecords)) =
      .error (.malformed (before.length + 1) (.json (.text fault)) []) := by
  have hwritable := h.isWritable
  rw [hrecords, List.forall_mem_append, List.forall_mem_cons] at hwritable
  obtain ⟨line, rest, fault, hlines, hblank, hdecode⟩ :=
    lines_written_cut after hgap hwritable.1 hbefore hwritable.2.1 hend
  have hnone : NotAnObject line (.json (.text fault)) := .json hdecode fun _ hn => nomatch hn
  have haccepted := h.accepted hgap hrecords
  refine ⟨fault, ?_⟩
  rw [hrecords]
  cases before with
  | nil => exact parse_of_outcome (.noObject hlines (fun _ hmem => nomatch hmem) hblank hnone)
  | cons first before =>
    have houtcome := Outcome.noEvent hlines ?_ haccepted hblank (.notAnObject hnone)
    · rw [List.length_map] at houtcome
      exact parse_of_outcome houtcome
    · rw [recordLinesOf_map]
      exact List.cons_ne_nil _ _

/-- Records of a header and of events, written one on each line, are read as the recording exactly
if no text of them has a character that ends a line and is not escaped. Else the first record with
such a character is the error. -/
theorem parse_written_iff (hgap : ∀ p ∈ gap, p = .char ' ')
    (h : recording.HasRecords headerRecord eventRecords) :
    (parse (written gap (headerRecord :: eventRecords)) = .ok recording ↔
      ∀ record ∈ headerRecord :: eventRecords, (Json.object record).hasLineEnd = false) ∧
    ∀ before record after, headerRecord :: eventRecords = before ++ record :: after →
      (∀ other ∈ before, (Json.object other).hasLineEnd = false) →
      (Json.object record).hasLineEnd →
      ∃ fault, parse (written gap (headerRecord :: eventRecords)) =
        .error (.malformed (before.length + 1) (.json (.text fault)) []) := by
  refine ⟨⟨fun hparse => ?_, parse_written hgap h⟩, fun _ _ _ => parse_written_cut hgap h⟩
  by_contra hsome
  have hany : (headerRecord :: eventRecords).any fun record => (Json.object record).hasLineEnd := by
    push Not at hsome
    obtain ⟨record, hmem, hend⟩ := hsome
    exact List.any_eq_true.2 ⟨record, hmem, by simpa using hend⟩
  obtain ⟨before, record, after, hrecords, hbefore, hend⟩ := exists_first hany
  obtain ⟨fault, hfault⟩ := parse_written_cut hgap h hrecords (by simpa using hbefore) hend
  rw [hparse] at hfault
  cases hfault

/-- The record of an action that fills in a text. -/
def fillRecord (t : Text) : Json.Members := [("name", .text "fill"), ("text", .text t)]

/-- A recording of such an action. -/
theorem exists_hasRecords_fill (t : Text) : ∃ recording : Recording,
    recording.HasRecords [] [fillRecord t] ∧ recording.events.map Event.text = [some t] := by
  have hwritable : (Json.object (fillRecord t)).IsWritable := by
    refine ⟨?_, trivial, trivial, trivial⟩
    show (["name", "text"] : List Text).Nodup
    decide
  obtain ⟨event, hread, htext⟩ :
      ∃ event, Event.read (fillRecord t) = .valid event ∧ event.text = some t := ⟨_, rfl, rfl⟩
  exact ⟨⟨⟨.chromium, .absent, [], []⟩, [event]⟩,
    ⟨⟨⟨List.nodup_nil, trivial⟩, rfl⟩, .cons ⟨hwritable, hread⟩ .nil, List.cons_ne_nil _ _⟩,
    congrArg ([·]) htext⟩

/-- Accents, quotes and line feeds are read back. -/
theorem parse_written_accents : ∃ recording : Recording,
    recording.HasRecords [] [fillRecord "é\"\n"] ∧
      parse (written " " [[], fillRecord "é\"\n"]) = .ok recording ∧
      recording.events.map Event.text = ([some ("é\"\n" : Text)] : List (Option Text)) := by
  obtain ⟨recording, hrecords, htexts⟩ := exists_hasRecords_fill "é\"\n"
  have hspace : ∀ p ∈ (" " : Text), p = .char ' ' := by decide
  exact ⟨recording, hrecords, (parse_written_iff hspace hrecords).1.2 (by decide), htexts⟩

/-- A line separator inside a text ends the line of its record. -/
theorem not_parse_written_lineSeparator : ∃ recording : Recording,
    recording.HasRecords [] [fillRecord "a\u2028b"] ∧
      parse (written " " [[], fillRecord "a\u2028b"]) ≠ .ok recording := by
  obtain ⟨recording, hrecords, -⟩ := exists_hasRecords_fill "a\u2028b"
  have hspace : ∀ p ∈ (" " : Text), p = .char ' ' := by decide
  have hsplit : [[], fillRecord "a\u2028b"] = [[]] ++ fillRecord "a\u2028b" :: [] := rfl
  obtain ⟨fault, hfault⟩ := parse_written_cut hspace hrecords hsplit (by decide) (by decide)
  refine ⟨recording, hrecords, ?_⟩
  rw [hfault]
  exact nofun

end Written

end Recording

end Playback
