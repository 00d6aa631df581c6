import Playback.Proofs.Text.Lines

/-!
# A checker of indentation

The checker reads a program line by line and keeps the indents of the blocks that are open. A line
that ends in a colon is the header of a block: the next line has to stand four columns deeper. Any
other line is followed by one at the indent of an open block. Blank lines and comments do not count.

* `Layout`: what the checker keeps, and `Layout.step` its step. `Text.isLaidOut`: it accepts a text.
* `Layout.Admits`: the layouts that a line at some indent may follow; `Layout.step_of_admits` is
  what such a line does.
* `Layout.read`: the steps of lines inside blocks.
-/

namespace Playback

namespace Text

/-- How many spaces a line begins with. -/
def leadingSpaces (line : Text) : Nat := (line.takeWhile (· == .char ' ')).length

/-- Is the line blank or a comment? -/
def isSkipped (line : Text) : Bool :=
  match line.dropWhile (· == .char ' ') with
  | [] => true
  | p :: _ => p == .char '#'

/-- Is the line the header of a block? -/
def isHeaderLine (line : Text) : Bool := line.getLast? == some (.char ':')

end Text

/-- What the checker keeps: the indents of the open blocks, the innermost first, and whether the
line before was the header of a block that is not open yet. -/
structure Layout where
  indents : List Nat
  atHeader : Bool
  deriving DecidableEq

namespace Layout

/-- The layout in front of a text. -/
def start : Layout := ⟨[0], false⟩

/-- The layout behind a line. -/
def step (layout : Layout) (line : Text) : Option Layout :=
  let indent := line.leadingSpaces
  if line.isSkipped then some layout
  else if layout.atHeader then
    if layout.indents.head?.map (· + 4) = some indent then
      some ⟨indent :: layout.indents, line.isHeaderLine⟩
    else none
  else
    let indents := layout.indents.dropWhile (indent < ·)
    if indents.head? = some indent then some ⟨indents, line.isHeaderLine⟩ else none

end Layout

/-- Does the checker accept the text? It may not end behind the header of a block. -/
def Text.isLaidOut (t : Text) : Bool :=
  ((t.splitOn (.char '\n')).foldlM Layout.step .start).any fun layout => !layout.atHeader

/-- The text begins with a letter. -/
def Text.BeginsWithLetter (t : Text) : Prop := ∃ p rest, t = p :: rest ∧ p.isAsciiLetter

/-- The text is a comment. -/
def Text.IsComment (t : Text) : Prop := ∃ rest, t = .char '#' :: rest

namespace Text

variable {line : Text}

theorem BeginsWithLetter.ne_nil (h : BeginsWithLetter line) : line ≠ [] := by
  obtain ⟨p, rest, rfl, -⟩ := h
  exact List.cons_ne_nil p rest

/-- What begins with a text that begins with a letter does so too. -/
theorem BeginsWithLetter.mono {front : Text} (h : BeginsWithLetter front)
    (hp : front <+: line) : BeginsWithLetter line := by
  obtain ⟨p, rest, rfl, hletter⟩ := h
  obtain ⟨back, rfl⟩ := hp
  exact ⟨p, rest ++ back, rfl, hletter⟩

private theorem spaces_of_first {p : CodePoint} (hp : (p == .char ' ') = false) (n : Nat)
    (rest : Text) {spaces : Text} (hs : spaces = List.replicate n (.char ' ')) :
    ((spaces ++ p :: rest).takeWhile (· == .char ' ')).length = n ∧
      (spaces ++ p :: rest).dropWhile (· == .char ' ') = p :: rest := by
  induction n generalizing spaces with
  | zero => simp [hs, hp]
  | succ n ih => simpa [hs, List.replicate_succ] using ih rfl

theorem isSkipped_comment (h : IsComment line) (depth : Nat) :
    (indented (Statement.indentationOf depth) line).isSkipped := by
  obtain ⟨rest, rfl⟩ := h
  rw [indented_of_ne_nil _ (by simp), isSkipped]
  rw [(spaces_of_first (by decide) _ _ (Statement.indentationOf_eq depth)).2]
  rfl

private theorem space_of_letter {p : CodePoint} (h : p.isAsciiLetter) :
    (p == .char ' ') = false ∧ (p == .char '#') = false := by
  constructor <;> refine beq_eq_false_iff_ne.2 ?_ <;> rintro rfl <;> revert h <;> decide

theorem isSkipped_letter (h : BeginsWithLetter line) (depth : Nat) :
    (indented (Statement.indentationOf depth) line).isSkipped = false := by
  obtain ⟨p, rest, rfl, hp⟩ := h
  rw [indented_of_ne_nil _ (by simp), isSkipped]
  rw [(spaces_of_first (space_of_letter hp).1 _ _ (Statement.indentationOf_eq depth)).2]
  exact (space_of_letter hp).2

theorem leadingSpaces_letter (h : BeginsWithLetter line) (depth : Nat) :
    (indented (Statement.indentationOf depth) line).leadingSpaces = 4 * depth := by
  obtain ⟨p, rest, rfl, hp⟩ := h
  rw [indented_of_ne_nil _ (by simp)]
  exact (spaces_of_first (space_of_letter hp).1 _ _ (Statement.indentationOf_eq depth)).1

theorem isHeaderLine_indented (h : line ≠ []) (lead : Text) :
    (indented lead line).isHeaderLine = line.isHeaderLine := by
  rw [indented_of_ne_nil _ h, isHeaderLine, isHeaderLine, List.getLast?_append,
    List.getLast?_eq_some_getLast h, Option.some_or]

end Text

namespace Layout

/-- A line at `indent` may follow, in a block that stands in those of the indents `outer`: it is the
first line of its block, or the block is open. -/
inductive Admits (indent : Nat) (outer : List Nat) : Layout → Prop
  | first {around : Nat} {rest : List Nat} (h : outer = around :: rest) (hi : indent = around + 4) :
    Admits indent outer ⟨outer, true⟩
  | next (inner : List Nat) (h : ∀ deeper ∈ inner, indent < deeper) :
    Admits indent outer ⟨inner ++ indent :: outer, false⟩

variable {indent depth : Nat} {outer : List Nat} {layout : Layout} {line : Text}

theorem admits_self (indent : Nat) (outer : List Nat) :
    Admits indent outer ⟨indent :: outer, false⟩ :=
  .next [] (by simp)

theorem admits_block (indent : Nat) (outer : List Nat) :
    Admits (indent + 4) (indent :: outer) ⟨indent :: outer, true⟩ :=
  .first rfl rfl

theorem step_of_isSkipped (h : line.isSkipped) : layout.step line = some layout := by
  unfold step
  exact if_pos h

/-- A line where one may stand leaves its block innermost. -/
theorem step_of_admits (hs : line.isSkipped = false) (h : Admits line.leadingSpaces outer layout) :
    layout.step line = some ⟨line.leadingSpaces :: outer, line.isHeaderLine⟩ := by
  unfold step
  rw [hs]
  cases h with
  | first ho hi => simp [ho, hi]
  | next inner h =>
    have hdrop : (inner ++ line.leadingSpaces :: outer).dropWhile (line.leadingSpaces < ·) =
        line.leadingSpaces :: outer := by
      rw [List.dropWhile_append_of_pos (by simpa using h), List.dropWhile_cons_of_neg (by simp)]
    simp [hdrop]

/-- Behind the header of a block no line may stand where the header stands. -/
theorem step_eq_none (hs : line.isSkipped = false) (outer : List Nat) :
    step ⟨line.leadingSpaces :: outer, true⟩ line = none := by
  simp [step, hs]

/-- The layout behind lines inside `depth` blocks. -/
def read (layout : Layout) (depth : Nat) (lines : List Text) : Option Layout :=
  (lines.map (Text.indented (Statement.indentationOf depth))).foldlM step layout

theorem read_cons (line : Text) (lines : List Text) : layout.read depth (line :: lines) =
    (layout.step (Text.indented (Statement.indentationOf depth) line)).bind (·.read depth lines) :=
  rfl

theorem read_append (front back : List Text) :
    layout.read depth (front ++ back) = (layout.read depth front).bind (·.read depth back) := by
  unfold read
  rw [List.map_append, List.foldlM_append]
  rfl

theorem read_indented (inner : Nat) (lines : List Text) :
    layout.read depth (lines.map (Text.indented (Statement.indentationOf inner))) =
      layout.read (depth + inner) lines := by
  unfold read
  rw [List.map_map]
  congr 1
  exact List.map_congr_left fun line _ => Text.indented_indentationOf depth inner line

/-- Comments leave the layout as it is. -/
theorem read_comments {lines : List Text} (h : ∀ line ∈ lines, line.IsComment) :
    layout.read depth lines = some layout := by
  induction lines with
  | nil => rfl
  | cons line lines ih =>
    obtain ⟨hline, hlines⟩ := List.forall_mem_cons.1 h
    rw [read_cons, step_of_isSkipped (Text.isSkipped_comment hline depth)]
    exact ih hlines

/-- A statement where one may stand leaves its block innermost. -/
theorem step_letter (hl : line.BeginsWithLetter) (h : Admits (4 * depth) outer layout) :
    layout.step (Text.indented (Statement.indentationOf depth) line) =
      some ⟨4 * depth :: outer, line.isHeaderLine⟩ := by
  have hspaces := Text.leadingSpaces_letter hl depth
  rw [step_of_admits (Text.isSkipped_letter hl depth) (hspaces.symm ▸ h), hspaces,
    Text.isHeaderLine_indented hl.ne_nil]

end Layout

end Playback
