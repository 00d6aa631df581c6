import Playback.Proofs.Json.Written
import Playback.Proofs.Text.Lines

/-!
# Line ends in written values

A value is written without line feeds, but three other characters that end a line stand in its texts
as they are.

* `Json.hasLineEnd`: such a character is in a text or a key of the value.
* `Json.any_endsLine_written`: only then is the written value more than one line.
* `Json.exists_cut`: the first line of a written object that is more than one ends inside a literal,
  so it is not JSON.
-/

namespace Playback

/-- U+0085, U+2028 and U+2029: the characters that end a line and are not escaped in a literal. -/
def CodePoint.isRawLineEnd (p : CodePoint) : Bool :=
  let n := p.toNat
  n == 0x85 || n == 0x2028 || n == 0x2029

theorem CodePoint.isRawLineEnd_eq (p : CodePoint) :
    p.isRawLineEnd = (p.endsLine && !decide (p.toNat < 0x20)) := by
  rw [Bool.eq_iff_iff]
  simp only [isRawLineEnd, endsLine, Bool.and_eq_true, Bool.or_eq_true, beq_iff_eq,
    decide_eq_true_eq, Bool.not_eq_true', decide_eq_false_iff_not]
  omega

theorem CodePoint.endsLine_of_isRawLineEnd {p : CodePoint} (h : p.isRawLineEnd) : p.endsLine := by
  rw [isRawLineEnd_eq, Bool.and_eq_true] at h
  exact h.1

/-- The first element of a kind, with what is in front of it and behind it. -/
theorem exists_first {α : Type} {kind : α → Bool} {xs : List α} (h : xs.any kind) :
    ∃ front x back, xs = front ++ x :: back ∧ front.any kind = false ∧ kind x := by
  obtain ⟨x, hfind⟩ := Option.isSome_iff_exists.1 (List.find?_isSome.2 (List.any_eq_true.1 h))
  obtain ⟨hx, front, back, hxs, hfront⟩ := List.find?_eq_some_iff_append.1 hfind
  exact ⟨front, x, back, hxs, List.any_eq_false.2 (by simpa using hfront), hx⟩

namespace Quoted

/-- What is written for a code point in a literal ends a line only if it is the code point. -/
theorem any_endsLine_escape (p : CodePoint) :
    (escape p).any CodePoint.endsLine = p.isRawLineEnd := by
  unfold escape
  split
  iterate 7
    · rfl
  · rw [CodePoint.isRawLineEnd_eq]
    split
    · next hc =>
      have hdigit : ∀ n : Fin 16, (hexDigit n).endsLine = false := by decide
      have hhigh : (hexDigit (p.toNat / 16)).endsLine = false := hdigit ⟨p.toNat / 16, by omega⟩
      have hlow : (hexDigit (p.toNat % 16)).endsLine = false := hdigit ⟨p.toNat % 16, by omega⟩
      have hlead : ("\\u00" : Text).any CodePoint.endsLine = false := by decide
      simp [hc, hlead, hhigh, hlow]
    · next hc => simp [hc]

theorem escape_of_isRawLineEnd {p : CodePoint} (h : p.isRawLineEnd) : escape p = [p] := by
  rw [CodePoint.isRawLineEnd_eq, Bool.and_eq_true, Bool.not_eq_true', decide_eq_false_iff_not] at h
  unfold escape
  split
  iterate 7
    · exact absurd h (by decide)
  · rw [if_neg h.2]

theorem any_endsLine_flatMap_escape (t : Text) :
    (t.flatMap escape).any CodePoint.endsLine = t.any CodePoint.isRawLineEnd := by
  rw [List.any_flatMap]
  exact congrArg t.any (funext any_endsLine_escape)

end Quoted

namespace Json

variable {gap : Text}

/-- The token is a text with a character that ends a line and is not escaped. -/
def Token.hasLineEnd : Token → Bool
  | .text t => t.any CodePoint.isRawLineEnd
  | _ => false

/-- A text or a key of the value has a character that ends a line and is not escaped. -/
def hasLineEnd (value : Json) : Bool := value.tokensOf.any Token.hasLineEnd

theorem endsLine_of_mem_ofInt {i : Int} : ∀ p ∈ Text.ofInt i, p.endsLine = false := by
  have hdigits (n : Nat) : ∀ p ∈ Text.ofNat n, p.endsLine = false := fun p hp =>
    CodePoint.endsLine_of_isAsciiDigit (isAsciiDigit_of_mem_ofNat n p hp)
  cases i with
  | ofNat n => exact hdigits n
  | negSucc n => exact List.forall_mem_cons.2 ⟨rfl, hdigits (n + 1)⟩

/-- Only a text with such a character is written with a line end. -/
theorem any_endsLine_spelled (hgap : ∀ p ∈ gap, p = .char ' ') {token : Token}
    (h : token.IsWritten) : (token.spelled gap).any CodePoint.endsLine = token.hasLineEnd := by
  have hspaces : gap.any CodePoint.endsLine = false := by
    rw [List.any_eq_false]
    intro p hp
    rw [hgap p hp]
    decide
  cases token with
  | openList | closeList | openObject | closeObject | null => rfl
  | comma | colon => exact hspaces
  | bool value => cases value <;> rfl
  | number value =>
    cases value with
    | int value => exact List.any_eq_false.2 fun p hp => by simp [endsLine_of_mem_ofInt p hp]
    | float value => cases h
  | text t =>
    have hquote : (CodePoint.char '"').endsLine = false := rfl
    rw [Token.spelled, Quoted.encode, List.any_cons, List.any_append,
      Quoted.any_endsLine_flatMap_escape, List.any_cons, hquote, List.any_nil, Bool.or_false,
      Bool.or_false, Bool.false_or]
    rfl
  | badText | hugeNumber | stray => cases h

theorem any_endsLine_flatMap_spelled (hgap : ∀ p ∈ gap, p = .char ' ') {ts : List Token}
    (h : ∀ token ∈ ts, token.IsWritten) :
    (ts.flatMap (Token.spelled gap)).any CodePoint.endsLine = ts.any Token.hasLineEnd := by
  induction ts with
  | nil => rfl
  | cons token ts ih =>
    obtain ⟨htoken, hts⟩ := List.forall_mem_cons.1 h
    rw [List.flatMap_cons, List.any_append, any_endsLine_spelled hgap htoken, ih hts, List.any_cons]

/-- A written value has a line end only in its texts. -/
theorem any_endsLine_written (hgap : ∀ p ∈ gap, p = .char ' ') {value : Json}
    (h : value.IsWritable) : (value.written gap).any CodePoint.endsLine = value.hasLineEnd :=
  any_endsLine_flatMap_spelled hgap (isWritten_of_mem_tokensOf h)

/-- A literal without its closing quote is the last token. -/
theorem exists_tokens_unclosed (t : Text) :
    ∃ fault, tokens (.char '"' :: t.flatMap Quoted.escape) = [.badText fault] := by
  obtain ⟨fault, hfault⟩ := Quoted.scan_unclosed t
  refine ⟨fault, ?_⟩
  have hs : scanToken (.char '"') (t.flatMap Quoted.escape) = (.badText fault, []) := by
    rw [scanToken, if_pos rfl, hfault]
  rw [tokens_cons rfl hs, tokens]

/-- Where a text is read, one that cannot be read is the fault. -/
theorem step_badText {place next : Place} {t : Text} (h : place.step (.text t) = .ok next)
    (fault : Quoted.Fault) : place.step (.badText fault) = .error (.text fault) := by
  cases place <;> cases h <;> rfl

theorem run_badText {place : Place} {front back : List Token} {t : Text} {value : Json}
    (h : place.run (front ++ .text t :: back) = .ok value) (fault : Quoted.Fault) :
    place.run (front ++ [.badText fault]) = .error (.text fault) := by
  induction front generalizing place with
  | nil =>
    cases hstep : place.step (.text t) with
    | error other =>
      rw [List.nil_append, Place.run, List.foldlM_cons, hstep] at h
      cases h
    | ok next =>
      rw [List.nil_append, Place.run, List.foldlM_cons, step_badText hstep]
      rfl
  | cons token front ih =>
    cases hstep : place.step token with
    | error other =>
      rw [List.cons_append, Place.run, List.foldlM_cons, hstep] at h
      cases h
    | ok next =>
      rw [List.cons_append, run_cons hstep] at h ⊢
      exact ih h

/-- The first character of an object's texts that ends a line and is not escaped. It is behind the
opening brace. -/
theorem exists_lineEnd {members : Members} (hend : (object members).hasLineEnd) :
    ∃ front a p b back,
      (object members).tokensOf = .openObject :: front ++ .text (a ++ p :: b) :: back ∧
      front.any Token.hasLineEnd = false ∧ a.any CodePoint.isRawLineEnd = false ∧
      p.isRawLineEnd := by
  obtain ⟨front, token, back, htokens, hfront, htoken⟩ := exists_first hend
  obtain ⟨t, rfl, ht⟩ : ∃ t, token = .text t ∧ t.any CodePoint.isRawLineEnd := by
    cases token <;> first | exact ⟨_, rfl, htoken⟩ | cases htoken
  obtain ⟨a, p, b, rfl, ha, hp⟩ := exists_first ht
  obtain ⟨later, hlater⟩ : ∃ later, (object members).tokensOf = .openObject :: later := by
    cases members <;> exact ⟨_, rfl⟩
  cases front with
  | nil => cases htokens.symm.trans hlater
  | cons first front =>
    cases htokens.symm.trans hlater
    exact ⟨front, a, p, b, back, htokens, hfront, ha, hp⟩

/-- A written object with a line end in a text is cut there. The line in front of the cut begins
with a brace and is not JSON, for its last literal is not closed. -/
theorem exists_cut (hgap : ∀ p ∈ gap, p = .char ' ') {members : Members}
    (h : (object members).IsWritable) (hend : (object members).hasLineEnd) :
    ∃ rest p back fault, (object members).written gap = .char '\x7b' :: rest ++ p :: back ∧
      rest.any CodePoint.endsLine = false ∧ p.isRawLineEnd ∧
      decode (.char '\x7b' :: rest) = .error (.text fault) := by
  obtain ⟨front, a, p, b, back, htokens, hfront, ha, hp⟩ := exists_lineEnd hend
  have hwritten : ∀ token ∈ .openObject :: front, token.IsWritten := fun token hmem =>
    isWritten_of_mem_tokensOf h token (htokens ▸ List.mem_append_left _ hmem)
  have hread := run_tokensOf_nil h
  have hchain := isChain_of_run hread
  rw [htokens] at hread hchain
  obtain ⟨fault, hfault⟩ := exists_tokens_unclosed a
  let rest := front.flatMap (Token.spelled gap) ++ .char '"' :: a.flatMap Quoted.escape
  refine ⟨rest, p,
    b.flatMap Quoted.escape ++ .char '"' :: back.flatMap (Token.spelled gap), fault,
    ?_, ?_, hp, ?_⟩
  · have hescape : Quoted.escape p = [p] := Quoted.escape_of_isRawLineEnd hp
    simp [rest, written, htokens, Token.spelled, Quoted.encode, hescape]
  · have hspelled := any_endsLine_flatMap_spelled hgap (List.forall_mem_cons.1 hwritten).2
    have hquote : (CodePoint.char '"').endsLine = false := rfl
    rw [List.any_append, hspelled, hfront, List.any_cons, hquote,
      Quoted.any_endsLine_flatMap_escape, ha]
    rfl
  · have hseparators : ∀ p ∈ gap, isSeparator p := fun p hp => hgap p hp ▸ rfl
    have hquote : EndsNumber (.char '"' :: a.flatMap Quoted.escape) := fun _ hp => by
      cases hp
      decide
    have hcut : tokens (.char '\x7b' :: rest) = .openObject :: front ++ [.badText fault] :=
      hfault ▸ tokens_spelled hseparators hwritten hchain.left_of_append hquote
    rw [decode_brace, hcut]
    exact run_badText hread fault

end Json

end Playback
