import Playback.Cli.Command
import Playback.Proofs.Recording.Lines
import Playback.Proofs.Text.Lines
import Playback.Proofs.Text.Utf8

/-!
# Line ends and blank lines

* `Text.HasLines`: a text of lines with line ends between them. `Text.HasLines.recordLinesOf_lines`:
  the lines of the text are these, up to blank ones.
* `Recording.mapError_parse`: the number of a line aside, a text is parsed to what comes of its
  lines that are not blank.
* `Text.lines_withLineFeeds`: line feeds in place of carriage returns leave the lines as they are.
  `readInput_of_encode`: this is how the bytes of a text are read.
* `Recording.parse_of_lineEnds`: neither the line ends nor blank lines matter, and neither does the
  way that a text is read.
-/

namespace Playback

/-- The text is these lines, with line ends between neighbours, and behind the last one or not. The
line ends are any code points that end lines, one or several. Lines may be empty; what ends the line
in front of an empty one may then go together with what ends the empty one. -/
inductive Text.HasLines : List Text → Text → Prop
  | none : HasLines [] []
  | last {line : Text} (hline : ∀ p ∈ line, p.endsLine = false) : HasLines [line] line
  | cons {line ends rest : Text} {lines : List Text} (hline : ∀ p ∈ line, p.endsLine = false)
    (hne : ends ≠ []) (hends : ∀ p ∈ ends, p.endsLine) (hrest : HasLines lines rest) :
    HasLines (line :: lines) (line ++ ends ++ rest)

namespace Text

/-- A code point that ends a line ends an empty one. The line feed of a pair ends no further line,
but that would be an empty one, too. -/
theorem exists_lines_of_endsLine {p : CodePoint} (h : p.endsLine) (rest : Text) :
    ∃ later, lines (p :: rest) = [] :: later ∧
      recordLinesOf later = recordLinesOf (lines rest) := by
  by_cases hpair : p = .char '\r' ∧ ∃ behind, rest = .char '\n' :: behind
  · obtain ⟨rfl, behind, rfl⟩ := hpair
    exact ⟨lines behind, lines.eq_2 behind, rfl⟩
  · refine ⟨lines rest, ?_, rfl⟩
    rw [lines, if_pos h]
    rintro behind rfl rfl
    exact hpair ⟨rfl, behind, rfl⟩

/-- Code points that end no line, in front of a line that is ended. -/
theorem lines_append_of_lines {line rest : Text} {later : List Text}
    (hline : ∀ p ∈ line, p.endsLine = false) (h : lines rest = [] :: later) :
    lines (line ++ rest) = line :: later := by
  induction line with
  | nil => exact h
  | cons p line ih =>
    obtain ⟨hp, hline⟩ := List.forall_mem_cons.1 hline
    rw [List.cons_append, lines_cons hp, ih hline]
    rfl

theorem recordLinesOf_cons_congr {lines lines' : List Text}
    (h : recordLinesOf lines = recordLinesOf lines') (line : Text) :
    recordLinesOf (line :: lines) = recordLinesOf (line :: lines') := by
  unfold recordLinesOf at h ⊢
  rw [List.filter_cons, List.filter_cons, h]

/-- In front of a text, line ends make blank lines only. -/
theorem recordLinesOf_lines_append {ends : Text} (hends : ∀ p ∈ ends, p.endsLine) (rest : Text) :
    recordLinesOf (lines (ends ++ rest)) = recordLinesOf (lines rest) := by
  induction ends with
  | nil => rfl
  | cons p ends ih =>
    obtain ⟨hp, hends⟩ := List.forall_mem_cons.1 hends
    obtain ⟨later, hlines, hlater⟩ := exists_lines_of_endsLine hp (ends ++ rest)
    rw [List.cons_append, hlines, ← ih hends, ← hlater]
    rfl

/-- The lines of a text are those that it is made of, up to blank ones. -/
theorem HasLines.recordLinesOf_lines {lines : List Text} {t : Text} (h : t.HasLines lines) :
    recordLinesOf t.lines = recordLinesOf lines := by
  induction h with
  | none => rfl
  | @last line hline =>
    by_cases hne : line = []
    · rw [hne]
      rfl
    · rw [lines_of_ne_nil hne hline]
  | @cons line ends rest lines hline hne hends hrest ih =>
    obtain ⟨p, ends, rfl⟩ := List.exists_cons_of_ne_nil hne
    obtain ⟨hp, hends⟩ := List.forall_mem_cons.1 hends
    obtain ⟨later, hlines, hlater⟩ := exists_lines_of_endsLine hp (ends ++ rest)
    rw [List.append_assoc, List.cons_append, lines_append_of_lines hline hlines]
    refine recordLinesOf_cons_congr ?_ line
    rw [hlater, recordLinesOf_lines_append hends, ih]

/-- With line feeds in place of carriage returns the lines are the same. -/
theorem lines_withLineFeeds (t : Text) : lines t.withLineFeeds = lines t := by
  fun_induction withLineFeeds t with
  | case1 => rfl
  | case2 rest ih => exact congrArg ([] :: ·) ih
  | case3 rest hfeed ih =>
    have hreturn : lines (.char '\r' :: rest) = [] :: lines rest := by
      rw [lines]
      · rfl
      · exact fun behind _ hrest => hfeed behind hrest
    rw [hreturn, ← ih]
    rfl
  | case4 p rest hpair hreturn ih =>
    rw [lines, lines, ih]
    · exact fun _ hp _ => hreturn hp
    · exact fun _ hp _ => hreturn hp

end Text

/-- The error without the number of the line that it is about. -/
def Error.unnumbered : Error → Error
  | .malformed _ defect record => .malformed 0 defect record
  | error => error

section MapError

variable {ε ε' α β : Type} {g : ε → ε'}

theorem mapError_bind (first : Except ε α) (next : α → Except ε β) :
    (first >>= next).mapError g = first.mapError g >>= fun a => (next a).mapError g := by
  cases first <;> rfl

theorem mapError_mapM (f : α → Except ε β) (as : List α) :
    (as.mapM f).mapError g = as.mapM fun a => (f a).mapError g := by
  induction as with
  | nil => rfl
  | cons a as ih =>
    simp only [List.mapM_cons, mapError_bind, ih]
    rfl

end MapError

namespace Recording

/-- The recording of the lines that are not blank, whatever their numbers are. -/
def ofRecordLines : List Text → Except Error Recording
  | [] => .error .emptyInput
  | headerLine :: lines => do
    let members ← readLine 0 headerLine
    if lines.isEmpty then throw (.headerOnly members)
    let header ← readRecord Header.read 0 members
    let events ← lines.mapM (readEvent 0)
    return ⟨header, events⟩

theorem mapError_readLine (number : Nat) (line : Text) :
    (readLine number line).mapError Error.unnumbered = readLine 0 line := by
  unfold readLine
  split <;> rfl

theorem mapError_readRecord {α : Type} (read : Json.Members → Checked α) (number : Nat)
    (members : Json.Members) :
    (readRecord read number members).mapError Error.unnumbered = readRecord read 0 members := by
  unfold readRecord
  split <;> rfl

theorem mapError_readEvent (number : Nat) (line : Text) :
    (readEvent number line).mapError Error.unnumbered = readEvent 0 line := by
  unfold readEvent
  simp only [mapError_bind, mapError_readLine, mapError_readRecord]

/-- The number of a line aside, a text is parsed to what comes of its lines that are not blank. -/
theorem mapError_parse (t : Text) :
    (parse t).mapError Error.unnumbered = ofRecordLines (recordLinesOf t.lines) := by
  rw [← map_fst_numberedFrom 1, ← numberedLines_eq, parse]
  cases numberedLines t with
  | nil => rfl
  | cons entry numbered =>
    have hevents : ((numbered.mapM fun (line, number) => readEvent number line).mapError
        Error.unnumbered) = (numbered.map Prod.fst).mapM (readEvent 0) := by
      rw [mapError_mapM, List.mapM_map]
      simp only [mapError_readEvent]
      rfl
    rw [List.map_cons, ofRecordLines, mapError_bind, mapError_readLine]
    refine congrArg (readLine 0 entry.1 >>= ·) (funext fun members => ?_)
    cases numbered with
    | nil => rfl
    | cons next numbered =>
      show (readRecord Header.read entry.2 members >>= fun header =>
        _ >>= fun events => pure (Recording.mk header events)).mapError _ = _
      rw [mapError_bind, mapError_readRecord]
      refine congrArg (readRecord Header.read 0 members >>= ·) (funext fun header => ?_)
      rw [mapError_bind, hevents]
      rfl

theorem parse_withLineFeeds (t : Text) : parse t.withLineFeeds = parse t := by
  unfold parse numberedLines
  rw [Text.lines_withLineFeeds]

end Recording

theorem programOf_withLineFeeds (t name : Text) :
    programOf t.withLineFeeds name = programOf t name := by
  unfold programOf Recording.load
  rw [Recording.parse_withLineFeeds]

/-- The bytes of a text are read as the text with line feeds. -/
theorem readInput_of_encode {t : Text} {bytes : List UInt8} (h : Utf8.encode t = .ok bytes) :
    readInput bytes = .ok t.withLineFeeds := by
  rw [readInput, Utf8.decode_of_encode h]
  rfl

namespace Recording

/-- Texts of the same lines, blank ones aside, are parsed to the same recording, or their errors are
the same but for the number of the line; and a text that is read of its bytes is parsed like the
text itself and gives the same program. -/
theorem parse_of_lineEnds :
    (∀ (lines lines' : List Text) (t t' : Text), t.HasLines lines → t'.HasLines lines' →
      recordLinesOf lines = recordLinesOf lines' →
      (parse t).mapError Error.unnumbered = (parse t').mapError Error.unnumbered) ∧
    ∀ t : Text, parse t.withLineFeeds = parse t ∧
      ∀ bytes, Utf8.encode t = .ok bytes → ∃ input, readInput bytes = .ok input ∧
        parse input = parse t ∧ ∀ name, programOf input name = programOf t name := by
  constructor
  · intro lines lines' t t' h h' hlines
    rw [mapError_parse, mapError_parse, h.recordLinesOf_lines, h'.recordLinesOf_lines, hlines]
  · intro t
    refine ⟨parse_withLineFeeds t, fun bytes hbytes => ?_⟩
    exact ⟨_, readInput_of_encode hbytes, parse_withLineFeeds t, programOf_withLineFeeds t⟩

/-- A header and an event without a name. -/
def namelessText : Text := "\x7b\x7d\n\x7b\"name\": null\x7d"

/-- The same with a carriage return, an empty line, a line feed, a blank line and a line separator
between the records. -/
def namelessSpaced : Text := "\x7b\x7d\r\n \u2028\x7b\"name\": null\x7d"

/-- Both texts have the same error, each on its line, and the bytes of the second one are read as a
text with the same result. -/
theorem parse_of_lineEnds_nameless :
    (∃ error error', parse namelessText = .error error ∧ parse namelessSpaced = .error error' ∧
      error.detail = "Malformed JSONL record on line 2: name: Input should be a valid string" ∧
      error'.detail = "Malformed JSONL record on line 3: name: Input should be a valid string" ∧
      error.unnumbered = error'.unnumbered) ∧
    ∃ bytes input, Utf8.encode namelessSpaced = .ok bytes ∧ readInput bytes = .ok input ∧
      parse input = parse namelessSpaced := by
  have hline {line : Text} (h : line.all (!·.endsLine)) : ∀ p ∈ line, p.endsLine = false := by
    simpa using h
  have hends {ends : Text} (h : ends.all CodePoint.endsLine) : ∀ p ∈ ends, p.endsLine :=
    List.all_eq_true.1 h
  have hnext {line rest : Text} {lines : List Text} (ends : Text) (hp : line.all (!·.endsLine))
      (hne : ends ≠ []) (hall : ends.all CodePoint.endsLine) (hrest : rest.HasLines lines) :
      (line ++ ends ++ rest).HasLines (line :: lines) :=
    .cons (hline hp) hne (hends hall) hrest
  have hevent : Text.HasLines ["\x7b\"name\": null\x7d"] "\x7b\"name\": null\x7d" :=
    .last (hline rfl)
  have htext : namelessText.HasLines ["\x7b\x7d", "\x7b\"name\": null\x7d"] :=
    hnext "\n" rfl (by decide) rfl hevent
  have hspaced : namelessSpaced.HasLines ["\x7b\x7d", [], " ", "\x7b\"name\": null\x7d"] :=
    hnext "\r" rfl (by decide) rfl <| hnext "\n" rfl (by decide) rfl <|
      hnext "\u2028" rfl (by decide) rfl hevent
  have hdetail : (match parse namelessText, parse namelessSpaced with
      | .error error, .error error' => some (error.detail, error'.detail)
      | _, _ => none) =
      some (("Malformed JSONL record on line 2: name: Input should be a valid string" : Text),
        ("Malformed JSONL record on line 3: name: Input should be a valid string" : Text)) := by
    decide +kernel
  obtain ⟨hsame, hread⟩ := parse_of_lineEnds
  obtain ⟨bytes, hbytes⟩ : ∃ bytes, Utf8.encode namelessSpaced = .ok bytes := ⟨_, rfl⟩
  obtain ⟨input, hinput, hparse, -⟩ := (hread namelessSpaced).2 bytes hbytes
  have herrors := hsame _ _ _ _ htext hspaced rfl
  refine ⟨?_, bytes, input, hbytes, hinput, hparse⟩
  split at hdetail
  · next error error' herror herror' =>
    rw [herror, herror'] at herrors
    obtain ⟨hdetail, hdetail'⟩ := Prod.mk.inj (Option.some.inj hdetail)
    exact ⟨error, error', herror, herror', hdetail, hdetail', Except.error.inj herrors⟩
  · cases hdetail

end Recording

end Playback
