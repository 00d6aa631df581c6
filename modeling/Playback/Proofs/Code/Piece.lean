import Mathlib.Data.List.Forall2
import Playback.Proofs.Code.Literal

/-!
# Lines of code in pieces

A reader of code goes through a line from left to right. A double quote begins a literal, a
backslash inside it takes the next character with it, and the next double quote ends it. Brackets
count only outside literals.

* `Piece.read?`: the pieces of a line, if every literal is closed on it.
* `Piece.nest`: the closing brackets that are still expected behind a piece.
* `Text.IsCode line values`: nothing on the line can be taken for anything else than code with
  literals of these values. The lemmas below build such lines: from plain characters
  (`IsPlain.isCode`), literals (`isCode_encode`), brackets (`IsCode.bracketed`), and by putting one
  behind the other (`IsCode.append`, `isCode_joined`).
-/

namespace Playback

namespace CodePoint

/-- The characters of code that are no brackets: ASCII letters and digits, the space, and the marks
of names, numbers, arguments and comments. -/
def isPlain (p : CodePoint) : Bool :=
  p.isAsciiLetter || p.isAsciiDigit || (" _.,:=+-#" : Text).contains p

/-- The bracket that closes an opening one. -/
def closing? : CodePoint → Option CodePoint
  | .char '(' => some ')'
  | .char '[' => some ']'
  | .char '\x7b' => some '\x7d'
  | _ => none

/-- Is the code point a closing bracket? -/
def isClosing (p : CodePoint) : Bool := (")]\x7d" : Text).contains p

/-- The characters that code has outside literals. -/
def isCode (p : CodePoint) : Bool := p.isPlain || p.closing?.isSome || p.isClosing

variable {p : CodePoint}

theorem isClosing_of_isPlain (h : p.isPlain) : p.isClosing = false := by
  refine Bool.eq_false_iff.2 fun hc => ?_
  simp only [isClosing, Text.ofString, List.contains_eq_mem, decide_eq_true_eq] at hc
  simp at hc
  rcases hc with rfl | rfl | rfl <;> revert h <;> decide

theorem closing?_of_isPlain (h : p.isPlain) : p.closing? = none := by
  unfold closing?
  split
  iterate 3 revert h; decide
  rfl

theorem ne_quote_of_isPlain (h : p.isPlain) : p ≠ .char '"' := by
  rintro rfl
  revert h
  decide

theorem ne_backslash_of_isPlain (h : p.isPlain) : p ≠ .char '\\' := by
  rintro rfl
  revert h
  decide

theorem space_le_of_isPlain (h : p.isPlain) : 0x20 ≤ p.toNat := by
  rcases p with c | half
  · simp only [isPlain, isAsciiLetter, isAsciiDigit, Bool.or_eq_true, Bool.and_eq_true,
      decide_eq_true_eq, Char.le_def, UInt32.le_iff_toNat_le, List.contains_eq_mem] at h
    show 0x20 ≤ c.toNat
    rcases h with ((h | h) | h) | h
    · have : 97 ≤ c.toNat := h.1
      omega
    · have : 65 ≤ c.toNat := h.1
      omega
    · have : 48 ≤ c.toNat := h.1
      omega
    · have hmarks : ∀ q ∈ (" _.,:=+-#" : Text), 0x20 ≤ q.toNat := by decide
      exact hmarks _ h
  · show 0x20 ≤ 0xD800 + (half : Nat)
    omega

end CodePoint

/-- Only plain characters. -/
def Text.IsPlain (t : Text) : Prop := ∀ p ∈ t, p.isPlain

instance (t : Text) : Decidable (Text.IsPlain t) :=
  inferInstanceAs (Decidable (∀ p ∈ t, p.isPlain))

namespace Text.IsPlain

variable {s t : Text}

theorem append (hs : IsPlain s) (ht : IsPlain t) : IsPlain (s ++ t) := fun p hp =>
  (List.mem_append.1 hp).elim (hs p) (ht p)

theorem cons {p : CodePoint} (hp : p.isPlain) (ht : IsPlain t) : IsPlain (p :: t) := by
  intro q hq
  rcases List.mem_cons.1 hq with rfl | hq
  exacts [hp, ht q hq]

/-- Plain characters stay plain where some are left out. -/
theorem subset (ht : IsPlain t) (h : s ⊆ t) : IsPlain s := fun p hp => ht p (h hp)

end Text.IsPlain

/-- A piece of a line: a code point outside literals, or a literal, given by what stands between its
quotes. -/
inductive Piece where
  | code (p : CodePoint)
  | literal (content : Text)
  deriving DecidableEq

namespace Piece

mutual

/-- The pieces of a line, if every literal is closed on it. -/
def read? : Text → Option (List Piece)
  | [] => some []
  | p :: rest =>
    if p = .char '"' then readLiteral? [] false rest else (read? rest).map (.code p :: ·)

/-- The pieces of a line from inside a literal on. `content` is what was read of the literal before,
and `escaped` says whether a backslash takes the next code point with it. -/
def readLiteral? (content : Text) (escaped : Bool) : Text → Option (List Piece)
  | [] => none
  | p :: rest =>
    if escaped then readLiteral? (content ++ [p]) false rest
    else if p = .char '"' then (read? rest).map (.literal content :: ·)
    else readLiteral? (content ++ [p]) (p = .char '\\') rest

end

/-- The closing brackets that are expected behind a piece, the next one first, given those in front
of it. A closing bracket that is not the expected one ends the reading. -/
def nest (expected : List CodePoint) : Piece → Option (List CodePoint)
  | .literal _ => some expected
  | .code p =>
    if p.isClosing then if expected.head? = some p then some expected.tail else none
    else some (p.closing?.toList ++ expected)

/-- What stands between the quotes of a literal. -/
def content? : Piece → Option Text
  | .code _ => none
  | .literal content => some content

/-- The pieces of code with literals of these values: outside literals there are only characters of
code, brackets are balanced and properly nested, and every literal has its value. -/
structure AreCode (pieces : List Piece) (values : List Text) : Prop where
  isCode : ∀ p, .code p ∈ pieces → p.isCode
  nested : pieces.foldlM nest [] = some []
  values_eq : (pieces.filterMap content?).mapM Literal.value? = some values

end Piece

/-- A line of code with literals of these values: it has no control character, and all its literals
are closed. -/
structure Text.IsCode (line : Text) (values : List Text) : Prop where
  noControl : ∀ p ∈ line, 0x20 ≤ p.toNat
  pieces : ∃ pieces, Piece.read? line = some pieces ∧ Piece.AreCode pieces values

namespace Piece

/-- Where a line is read to its end, a text behind it is read as if it stood alone. -/
theorem read?_append {s t : Text} {front : List Piece} (h : read? s = some front) :
    read? (s ++ t) = (read? t).map (front ++ ·) := by
  -- The two readers call each other, so the induction carries what holds of both.
  have both : ∀ s : Text,
      (∀ front, read? s = some front → read? (s ++ t) = (read? t).map (front ++ ·)) ∧
      ∀ content escaped front, readLiteral? content escaped s = some front →
        readLiteral? content escaped (s ++ t) = (read? t).map (front ++ ·) := by
    intro s
    induction s with
    | nil =>
      refine ⟨?_, ?_⟩
      · intro front h
        cases h
        simp
      · intro content escaped front h
        cases h
    | cons p s ih =>
      refine ⟨?_, ?_⟩
      · intro front h
        rw [read?] at h
        rw [List.cons_append, read?]
        by_cases hp : p = .char '"'
        · rw [if_pos hp] at h ⊢
          exact ih.2 _ _ _ h
        · rw [if_neg hp] at h ⊢
          obtain ⟨later, hs, rfl⟩ := Option.map_eq_some_iff.1 h
          rw [ih.1 later hs, Option.map_map]
          rfl
      · intro content escaped front h
        rw [readLiteral?] at h
        rw [List.cons_append, readLiteral?]
        by_cases he : escaped
        · rw [if_pos he] at h ⊢
          exact ih.2 _ _ _ h
        rw [if_neg he] at h ⊢
        by_cases hp : p = .char '"'
        · rw [if_pos hp] at h ⊢
          obtain ⟨later, hs, rfl⟩ := Option.map_eq_some_iff.1 h
          rw [ih.1 later hs, Option.map_map]
          rfl
        · rw [if_neg hp] at h ⊢
          exact ih.2 _ _ _ h
  exact (both s).1 front h

/-- Brackets that are expected further out stay expected. -/
theorem nest_frame {piece : Piece} {expected expected' : List CodePoint}
    (h : nest expected piece = some expected') (outer : List CodePoint) :
    nest (expected ++ outer) piece = some (expected' ++ outer) := by
  cases piece with
  | literal content => cases h; rfl
  | code p =>
    unfold nest at h ⊢
    by_cases hp : p.isClosing
    · simp only [if_pos hp] at h ⊢
      cases expected with
      | nil => cases h
      | cons q rest =>
        by_cases hq : q = p
        · rw [List.cons_append]
          simpa [hq] using h
        · simp [hq] at h
    · simp only [if_neg hp, Option.some.injEq] at h ⊢
      rw [← h, List.append_assoc]

theorem foldlM_nest_frame {pieces : List Piece} {expected expected' : List CodePoint}
    (h : pieces.foldlM nest expected = some expected') (outer : List CodePoint) :
    pieces.foldlM nest (expected ++ outer) = some (expected' ++ outer) := by
  induction pieces generalizing expected with
  | nil => cases h; rfl
  | cons piece pieces ih =>
    obtain ⟨next, hstep, hrest⟩ := Option.bind_eq_some_iff.1 h
    rw [List.foldlM_cons, nest_frame hstep outer]
    exact ih hrest

namespace AreCode

variable {front back : List Piece} {xs ys : List Text}

theorem nil : AreCode [] [] := ⟨by simp, rfl, rfl⟩

theorem append (hx : AreCode front xs) (hy : AreCode back ys) : AreCode (front ++ back) (xs ++ ys)
    where
  isCode p h := (List.mem_append.1 h).elim (hx.isCode p) (hy.isCode p)
  nested := by rw [List.foldlM_append, hx.nested]; exact hy.nested
  values_eq := by
    rw [List.filterMap_append, List.mapM_append, hx.values_eq, hy.values_eq]; rfl

/-- Code between an opening bracket and the one that closes it. -/
theorem bracketed {o c : CodePoint} (hc : o.closing? = some c) (hx : AreCode front xs) :
    AreCode (.code o :: (front ++ [.code c])) xs := by
  have hoc : o.isClosing = false ∧ c.isClosing = true := by
    unfold CodePoint.closing? at hc
    split at hc <;> cases hc <;> decide
  constructor
  · intro p hp
    simp only [List.mem_cons, List.mem_append, List.not_mem_nil, or_false] at hp
    rcases hp with hp | hp | hp
    · cases hp
      simp [CodePoint.isCode, hc]
    · exact hx.isCode p hp
    · cases hp
      simp [CodePoint.isCode, hoc.2]
  · have hframe : front.foldlM nest [c] = some [c] := foldlM_nest_frame hx.nested [c]
    rw [List.foldlM_cons, nest, if_neg (by simp [hoc.1]), hc]
    show (front ++ [Piece.code c]).foldlM nest [c] = _
    rw [List.foldlM_append, hframe]
    show [Piece.code c].foldlM nest [c] = _
    simp [nest, hoc.2]
  · simpa [content?, List.filterMap_cons] using hx.values_eq

theorem literal {content value : Text} (h : Literal.value? content = some value) :
    AreCode [.literal content] [value] where
  isCode := by simp
  nested := rfl
  values_eq := by simp [content?, h]

theorem plain {p : CodePoint} (h : p.isPlain) : AreCode [.code p] [] where
  isCode q hq := by
    cases List.mem_singleton.1 hq
    simp [CodePoint.isCode, h]
  nested := by
    rw [List.foldlM_cons, nest, if_neg (by simp [CodePoint.isClosing_of_isPlain h]),
      CodePoint.closing?_of_isPlain h]
    rfl
  values_eq := rfl

end AreCode

theorem isPlain_hexDigit {n : Nat} (h : n < 16) : (Quoted.hexDigit n).isPlain := by
  have : ∀ n : Fin 16, (Quoted.hexDigit n).isPlain := by decide
  exact this ⟨n, h⟩

/-- An escaped code point does not end a literal. -/
theorem readLiteral?_escape (content : Text) (p : CodePoint) (rest : Text) :
    readLiteral? content false (Quoted.escape p ++ rest) =
      readLiteral? (content ++ Quoted.escape p) false rest := by
  unfold Quoted.escape
  split
  iterate 7
    · simp [Text.ofString, readLiteral?]
  · next hq hb _ _ _ _ _ =>
    split
    · next hc =>
      have h1 := isPlain_hexDigit (show p.toNat / 16 < 16 by omega)
      have h2 := isPlain_hexDigit (show p.toNat % 16 < 16 by omega)
      simp [Text.ofString, readLiteral?, CodePoint.ne_quote_of_isPlain h1,
        CodePoint.ne_backslash_of_isPlain h1, CodePoint.ne_quote_of_isPlain h2,
        CodePoint.ne_backslash_of_isPlain h2]
    · simp [readLiteral?, show p ≠ .char '"' from hq, show p ≠ .char '\\' from hb]

/-- An escaped text and a quote behind it are the rest of a literal. -/
theorem readLiteral?_escaped (content t rest : Text) :
    readLiteral? content false (t.flatMap Quoted.escape ++ .char '"' :: rest) =
      (read? rest).map (.literal (content ++ t.flatMap Quoted.escape) :: ·) := by
  induction t generalizing content with
  | nil => simp [readLiteral?]
  | cons p t ih =>
    rw [List.flatMap_cons, List.append_assoc, readLiteral?_escape, ih, List.append_assoc]

/-- What is written for a text is one literal. -/
theorem read?_encode (t : Text) :
    read? (Quoted.encode t) = some [.literal (t.flatMap Quoted.escape)] := by
  rw [Quoted.encode, read?, if_pos rfl, readLiteral?_escaped]
  rfl

end Piece

namespace Text

variable {s t : Text} {xs ys : List Text}

theorem isCode_nil : IsCode [] [] := ⟨by simp, [], rfl, .nil⟩

theorem IsCode.append (hs : IsCode s xs) (ht : IsCode t ys) : IsCode (s ++ t) (xs ++ ys) := by
  obtain ⟨front, hfront, hxs⟩ := hs.pieces
  obtain ⟨back, hback, hys⟩ := ht.pieces
  refine ⟨?_, front ++ back, ?_, hxs.append hys⟩
  · intro p hp
    exact (List.mem_append.1 hp).elim (hs.noControl p) (ht.noControl p)
  · rw [Piece.read?_append hfront, hback]
    rfl

theorem IsPlain.isCode (h : IsPlain t) : IsCode t [] := by
  induction t with
  | nil => exact isCode_nil
  | cons p t ih =>
    have hp := h p List.mem_cons_self
    have hone : IsCode [p] [] := by
      refine ⟨?_, [.code p], ?_, .plain hp⟩
      · intro q hq
        cases List.mem_singleton.1 hq
        exact CodePoint.space_le_of_isPlain hp
      · simp [Piece.read?, CodePoint.ne_quote_of_isPlain hp]
    exact hone.append (ih (h.subset (List.subset_cons_self p t)))

/-- Code between an opening bracket and the one that closes it. -/
theorem IsCode.bracketed {o c : CodePoint} (hc : o.closing? = some c) (ht : IsCode t xs) :
    IsCode (o :: (t ++ [c])) xs := by
  obtain ⟨front, hfront, hxs⟩ := ht.pieces
  have hoc : 0x20 ≤ o.toNat ∧ 0x20 ≤ c.toNat ∧ o ≠ .char '"' ∧ c ≠ .char '"' := by
    unfold CodePoint.closing? at hc
    split at hc <;> cases hc <;> decide
  refine ⟨?_, .code o :: (front ++ [.code c]), ?_, hxs.bracketed hc⟩
  · intro p hp
    simp only [List.mem_cons, List.mem_append, List.not_mem_nil, or_false] at hp
    rcases hp with rfl | hp | rfl
    exacts [hoc.1, ht.noControl p hp, hoc.2.1]
  · have hclose : Piece.read? [c] = some [.code c] := by simp [Piece.read?, hoc.2.2.2]
    rw [Piece.read?, if_neg hoc.2.2.1, Piece.read?_append hfront, hclose]
    rfl

theorem space_le_of_mem_escape {p q : CodePoint} (h : q ∈ Quoted.escape p) : 0x20 ≤ q.toNat := by
  unfold Quoted.escape at h
  split at h
  iterate 7
    · revert q
      decide
  · split at h
    · next hc =>
      simp only [ofString, List.mem_append, List.mem_cons, List.not_mem_nil, or_false] at h
      rcases h with h | rfl | rfl
      · revert q
        decide
      · exact CodePoint.space_le_of_isPlain (Piece.isPlain_hexDigit (by omega))
      · exact CodePoint.space_le_of_isPlain (Piece.isPlain_hexDigit (by omega))
    · next hc =>
      cases List.mem_singleton.1 h
      omega

/-- The literal of a text is code with one literal, which has the text for its value. -/
theorem isCode_encode (t : Text) : IsCode (Quoted.encode t) [t] := by
  refine ⟨?_, _, Piece.read?_encode t, .literal (Literal.value?_escaped t)⟩
  intro p hp
  simp only [Quoted.encode, List.mem_cons, List.mem_append, List.mem_flatMap, List.not_mem_nil,
    or_false] at hp
  rcases hp with rfl | ⟨q, -, hp⟩ | rfl
  · decide
  · exact space_le_of_mem_escape hp
  · decide

/-- Parts of code with commas between them. -/
theorem isCode_joined {parts : List Text} {values : List (List Text)}
    (h : List.Forall₂ IsCode parts values) : IsCode (joined ", " parts) values.flatten := by
  have hcomma : IsCode (", " : Text) [] := IsPlain.isCode (by decide)
  induction h with
  | nil => exact isCode_nil
  | @cons part xs parts values hpart hparts ih =>
    cases hparts with
    | nil => simpa [joined, List.intercalate] using hpart
    | @cons next ys later more hnext hlater =>
      have := hpart.append (hcomma.append ih)
      simpa [joined, List.intercalate_cons_cons] using this

end Text

end Playback
