import Playback.Program.Statement
import Playback.Text.Lines

/-!
# Lines and indentation

* `Text.lines_append_cons`: the lines of a text from its first line end on.
* `Text.lines_append_lineFeed_append`: two texts with a line feed between them have the lines of
  both, and at most an empty one more.
* `Text.lines_joined`: lines with line feeds between them are read as the lines.
* `Text.splitOn_ofLines`: lines without line feeds are what stands between the line feeds of their
  text, and nothing follows the last one.
* `Statement.indentationOf_eq`: what a line is indented by inside blocks, as a number of spaces.
* `Text.indented_indented`: a line that is indented twice.
-/

namespace Playback

theorem CodePoint.endsLine_of_isAsciiDigit {p : CodePoint} (h : p.isAsciiDigit) :
    p.endsLine = false := by
  rcases p with c | half
  · simp only [isAsciiDigit, Bool.and_eq_true, decide_eq_true_eq, Char.le_def,
      UInt32.le_iff_toNat_le] at h
    have hlow : 48 ≤ c.toNat := h.1
    have hhigh : c.toNat ≤ 57 := h.2
    have hn : (char c).toNat = c.toNat := rfl
    simp only [endsLine, hn, Bool.or_eq_false_iff, Bool.and_eq_false_iff, decide_eq_false_iff_not,
      beq_eq_false_iff_ne]
    omega
  · cases h

namespace Text

theorem splitOn_ofLines {lines : List Text} (h : ∀ line ∈ lines, .char '\n' ∉ line) :
    (ofLines lines).splitOn (.char '\n') = lines ++ [[]] := by
  induction lines with
  | nil => rfl
  | cons line lines ih =>
    have hsplit : ofLines (line :: lines) = line ++ .char '\n' :: ofLines lines := by
      simp [ofLines, ofString]
    have hline := h line List.mem_cons_self
    rw [hsplit, List.splitOn_append_cons_self_of_not_mem hline, List.cons_append]
    rw [ih fun rest hr => h rest (List.mem_cons_of_mem _ hr)]

theorem lines_cons {p : CodePoint} (h : p.endsLine = false) (rest : Text) :
    lines (p :: rest) = pushFront p (lines rest) := by
  rw [lines, h, if_neg Bool.false_ne_true]
  rintro rest rfl rfl
  revert h
  decide

/-- A line that is ended, though not by a carriage return, which may have a line feed with it. -/
theorem lines_append_cons {line : Text} (h : ∀ p ∈ line, p.endsLine = false) {q : CodePoint}
    (hq : q.endsLine) (hreturn : q ≠ .char '\r') (rest : Text) :
    lines (line ++ q :: rest) = line :: lines rest := by
  induction line with
  | nil =>
    rw [List.nil_append, lines, if_pos hq]
    exact fun _ hr _ => hreturn hr
  | cons p line ih =>
    obtain ⟨hp, hline⟩ := List.forall_mem_cons.1 h
    rw [List.cons_append, lines_cons hp, ih hline]
    rfl

/-- A line that a line feed ends. -/
theorem lines_append_lineFeed {line : Text} (h : ∀ p ∈ line, p.endsLine = false) (rest : Text) :
    lines (line ++ .char '\n' :: rest) = line :: lines rest :=
  lines_append_cons h rfl (by decide) rest

/-- Nothing ends the last line. -/
theorem lines_of_ne_nil {line : Text} (hne : line ≠ []) (h : ∀ p ∈ line, p.endsLine = false) :
    lines line = [line] := by
  induction line with
  | nil => exact absurd rfl hne
  | cons p line ih =>
    obtain ⟨hp, hline⟩ := List.forall_mem_cons.1 h
    rw [lines_cons hp]
    cases line with
    | nil => rfl
    | cons next line =>
      rw [ih (List.cons_ne_nil next line) hline]
      rfl

/-- A text that is not empty has a line. -/
theorem exists_lines_cons (p : CodePoint) (rest : Text) :
    ∃ line later, lines (p :: rest) = line :: later := by
  by_cases hfeed : p = .char '\r' ∧ ∃ behind, rest = .char '\n' :: behind
  · obtain ⟨rfl, behind, rfl⟩ := hfeed
    exact ⟨_, _, lines.eq_2 behind⟩
  · rw [lines]
    · cases p.endsLine with
      | true => exact ⟨_, _, if_pos rfl⟩
      | false =>
        rw [if_neg Bool.false_ne_true]
        cases lines rest with
        | nil => exact ⟨_, _, rfl⟩
        | cons line later => exact ⟨_, _, rfl⟩
    · rintro behind rfl rfl
      exact hfeed ⟨rfl, behind, rfl⟩

/-- Two texts with a line feed between them have the lines of both. There is an empty line more
where a line end is in front of the line feed; only a carriage return takes it with it. -/
theorem lines_append_lineFeed_append (front back : Text) :
    lines (front ++ .char '\n' :: back) = lines front ++ lines back ∨
      lines (front ++ .char '\n' :: back) = lines front ++ [] :: lines back := by
  -- the text in front is empty, or begins with a carriage return and a line feed, with another
  -- line end, or with any other character
  fun_induction lines front with
  | case1 =>
    right
    rfl
  | case2 rest ih => simpa only [List.cons_append, lines, List.cons.injEq, true_and] using ih
  | case3 p rest h hends ih =>
    by_cases hseam : p = .char '\r' ∧ rest = []
    · left
      obtain ⟨rfl, rfl⟩ := hseam
      rfl
    · have hcons : lines (p :: (rest ++ .char '\n' :: back)) =
          [] :: lines (rest ++ .char '\n' :: back) := by
        rw [lines, if_pos hends]
        rintro behind rfl hrest
        cases rest with
        | nil => exact hseam ⟨rfl, rfl⟩
        | cons q rest =>
          cases hrest
          exact h _ rfl rfl
      simpa only [List.cons_append, hcons, List.cons.injEq, true_and] using ih
  | case4 p rest h hends ih =>
    rw [List.cons_append, lines_cons (by simpa using hends)]
    cases rest with
    | nil =>
      left
      rfl
    | cons q rest =>
      obtain ⟨line, later, hfirst⟩ := exists_lines_cons q rest
      rw [hfirst] at ih ⊢
      rcases ih with ih | ih
      · left
        rw [ih]
        rfl
      · right
        rw [ih]
        rfl

/-- Lines with line feeds between them, up to one of them. -/
theorem lines_joined_append {front : List Text} (h : ∀ line ∈ front, ∀ p ∈ line, p.endsLine = false)
    (line : Text) (back : List Text) :
    lines (joined "\n" (front ++ line :: back)) = front ++ lines (joined "\n" (line :: back)) := by
  induction front with
  | nil => rfl
  | cons first front ih =>
    obtain ⟨hfirst, hfront⟩ := List.forall_mem_cons.1 h
    have hjoined : joined "\n" (first :: (front ++ line :: back)) =
        first ++ .char '\n' :: joined "\n" (front ++ line :: back) := by
      cases front <;> simp [joined, List.intercalate_cons_cons, ofString]
    rw [List.cons_append, hjoined, lines_append_lineFeed hfirst, ih hfront, List.cons_append]

/-- Lines with line feeds between them are read as the lines. -/
theorem lines_joined {texts : List Text} (hne : ∀ line ∈ texts, line ≠ [])
    (h : ∀ line ∈ texts, ∀ p ∈ line, p.endsLine = false) : lines (joined "\n" texts) = texts := by
  obtain rfl | ⟨front, last, rfl⟩ := List.eq_nil_or_concat texts
  · rfl
  · rw [List.concat_eq_append] at hne h ⊢
    rw [List.forall_mem_append, List.forall_mem_singleton] at hne h
    rw [lines_joined_append h.1, joined, List.intercalate_singleton, lines_of_ne_nil hne.2 h.2]

theorem indented_nil (lead : Text) : indented lead [] = [] := rfl

theorem indented_of_ne_nil (lead : Text) {line : Text} (h : line ≠ []) :
    indented lead line = lead ++ line := by
  unfold indented
  rw [if_neg (by simpa using h)]

theorem getLast?_indented (lead line : Text) :
    (indented lead line).getLast? = line.getLast? := by
  by_cases h : line = []
  · rw [h, indented_nil]
  · rw [indented_of_ne_nil _ h, List.getLast?_append, List.getLast?_eq_some_getLast h,
      Option.some_or]

theorem indented_indented (lead inner line : Text) :
    indented lead (indented inner line) = indented (lead ++ inner) line := by
  by_cases h : line = []
  · rw [h, indented_nil, indented_nil, indented_nil]
  · rw [indented_of_ne_nil _ h, indented_of_ne_nil _ h, indented_of_ne_nil, List.append_assoc]
    exact List.append_ne_nil_of_right_ne_nil inner h

theorem indented_injective (lead : Text) : Function.Injective (indented lead) := by
  intro s t h
  by_cases hs : s = []
  · by_cases ht : t = []
    · rw [hs, ht]
    · rw [hs, indented_nil, indented_of_ne_nil _ ht] at h
      exact absurd h.symm (List.append_ne_nil_of_right_ne_nil _ ht)
  · by_cases ht : t = []
    · rw [ht, indented_nil, indented_of_ne_nil _ hs] at h
      exact absurd h (List.append_ne_nil_of_right_ne_nil _ hs)
    · rw [indented_of_ne_nil _ hs, indented_of_ne_nil _ ht] at h
      exact List.append_cancel_left h

end Text

namespace Statement

theorem indentationOf_eq (depth : Nat) :
    indentationOf depth = List.replicate (4 * depth) (.char ' ') := by
  have hfour : indentation = List.replicate 4 (.char ' ') := rfl
  rw [indentationOf, hfour, List.flatten_replicate_replicate, Nat.mul_comm]

theorem indentationOf_append (outer inner : Nat) :
    indentationOf outer ++ indentationOf inner = indentationOf (outer + inner) := by
  rw [indentationOf_eq, indentationOf_eq, indentationOf_eq, List.replicate_append_replicate,
    Nat.mul_add]

theorem indentation_eq : indentation = indentationOf 1 := rfl

end Statement

/-- Outside all blocks lines stay as they are. -/
theorem Text.indented_zero (line : Text) :
    Text.indented (Statement.indentationOf 0) line = line := by
  unfold Text.indented
  split <;> rfl

/-- Lines that are inside blocks already, inside further ones. -/
theorem Text.indented_indentationOf (outer inner : Nat) (line : Text) :
    Text.indented (Statement.indentationOf outer)
        (Text.indented (Statement.indentationOf inner) line) =
      Text.indented (Statement.indentationOf (outer + inner)) line := by
  rw [Text.indented_indented, Statement.indentationOf_append]

end Playback
