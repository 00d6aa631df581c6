import Mathlib.Data.List.Chain
import Playback.Json.Encode
import Playback.Json.Token
import Playback.Proofs.Text.Basic
import Playback.Proofs.Text.Quoted

/-!
# Tokens that are read back

A token is written in characters that are read as the token, and the text behind it as further
tokens. Only a number needs something behind it that does not continue it.

* `Json.tokens_cons`: the tokens of a text, from its first one on.
* `Json.tokens_ofInt`: a whole number in decimal digits is read as the number.
* `Json.Token.spelled`: how a token is written. `Json.tokens_spelled`: tokens that are written one
  after the other are read back, if no two neighbours are numbers.
-/

namespace Playback

namespace Json

theorem tokens_cons {p : CodePoint} {rest after : Text} {token : Token}
    (hp : isSeparator p = false) (hs : scanToken p rest = (token, after)) :
    tokens (p :: rest) = token :: tokens after := by
  rw [tokens, hp, if_neg Bool.false_ne_true, hs]

/-- Separators in front of a text. -/
theorem tokens_separators {gap : Text} (h : ∀ p ∈ gap, isSeparator p) (rest : Text) :
    tokens (gap ++ rest) = tokens rest := by
  induction gap with
  | nil => rfl
  | cons p gap ih =>
    obtain ⟨hp, hgap⟩ := List.forall_mem_cons.1 h
    rw [List.cons_append, tokens, if_pos hp, ih hgap]

/-- No word begins like another one. -/
theorem words_pairwise : (words.map Prod.fst).Pairwise fun a b => ¬ a <+: b ∧ ¬ b <+: a := by
  decide +kernel

/-- A word is read, whatever follows it. -/
theorem scanWord?_append {word : Text} {token : Token} (h : (word, token) ∈ words) (rest : Text) :
    scanWord? (word ++ rest) = some (token, rest) := by
  have hfound := Text.findSome?_after? (fun token rest => some (token, rest)) words_pairwise h
    (t := rest) rfl
  rw [scanWord?, ← hfound]
  exact congrArg (words.findSome? ·) (funext fun _ => Option.map_eq_bind)

/-! ## Whole numbers -/

theorem spanDigits_append {digits rest : Text} (h : ∀ p ∈ digits, p.isAsciiDigit)
    (hrest : ∀ p, rest.head? = some p → p.isAsciiDigit = false) :
    spanDigits (digits ++ rest) = (digits, rest) := by
  unfold spanDigits
  rw [List.takeWhile_append_of_pos h, List.dropWhile_append_of_pos h]
  cases rest with
  | nil => simp
  | cons p rest => simp [hrest p rfl]

theorem isAsciiDigit_of_mem_ofNat (n : Nat) : ∀ p ∈ Text.ofNat n, p.isAsciiDigit := by
  intro p hp
  obtain ⟨c, hc, rfl⟩ := List.mem_map.1 hp
  have hdigit : c.isDigit := Nat.isDigit_of_mem_toDigits (by decide) (by decide) hc
  simpa [CodePoint.isAsciiDigit, Char.isDigit, Char.le_def] using hdigit

/-- There is a digit at least. -/
theorem exists_digit_ofNat (n : Nat) : ∃ p t, Text.ofNat n = p :: t ∧ p.isAsciiDigit := by
  cases hdigits : Text.ofNat n with
  | nil =>
    rw [Text.ofNat, Text.ofDigits, List.map_eq_nil_iff] at hdigits
    exact absurd hdigits Nat.toDigits_ne_nil
  | cons p t =>
    exact ⟨p, t, rfl, isAsciiDigit_of_mem_ofNat n p (hdigits ▸ List.mem_cons_self)⟩

/-- Decimal digits are read as the number that they write. -/
theorem digitsValue_ofNat (n : Nat) : digitsValue (Text.ofNat n) = n := by
  have hvalue := Nat.ofDigitChars_toDigits (n := n) (b := 10) (by decide) (by decide)
  rw [digitsValue, Text.ofNat, Text.ofDigits, List.map_map, Integer.ofDigits, List.foldl_map]
  exact hvalue

/-- No zero stands in front of other digits. -/
theorem exists_ofNat_eq_cons {n : Nat} (h : 0 < n) :
    ∃ c rest, Text.ofNat n = .char c :: rest ∧ c ≠ '0' := by
  have hdigits : ∃ c rest, Nat.toDigits 10 n = c :: rest ∧ c ≠ '0' := by
    induction n using Nat.strongRecOn with
    | ind n ih =>
      by_cases hn : n < 10
      · have hdigit : ∀ n : Fin 10, 0 < n.val → n.val.digitChar ≠ '0' := by decide
        exact ⟨_, [], Nat.toDigits_of_lt_base hn, hdigit ⟨n, hn⟩ h⟩
      · obtain ⟨c, rest, hfront, hc⟩ := ih (n / 10) (by omega) (by omega)
        refine ⟨c, rest ++ [(n % 10).digitChar], ?_, hc⟩
        rw [Nat.toDigits_of_base_le (by decide) (by omega), hfront, List.cons_append]
  obtain ⟨c, rest, hn, hc⟩ := hdigits
  exact ⟨c, rest.map .char, by rw [Text.ofNat, Text.ofDigits, hn, List.map_cons], hc⟩

/-- Does the code point continue a number that stands in front of it? -/
def continuesNumber (p : CodePoint) : Bool :=
  p.isAsciiDigit || p == .char '.' || p == .char 'e' || p == .char 'E'

/-- A number may stand in front of the text. -/
def EndsNumber (rest : Text) : Prop := ∀ p, rest.head? = some p → continuesNumber p = false

variable {rest : Text}

theorem scanWhole_ofNat (h : EndsNumber rest) (n : Nat) :
    scanWhole (Text.ofNat n ++ rest) = (Text.ofNat n, rest) := by
  have hspan : spanDigits (Text.ofNat n ++ rest) = (Text.ofNat n, rest) := by
    refine spanDigits_append (isAsciiDigit_of_mem_ofNat n) fun p hp => ?_
    have hcontinues := h p hp
    rw [continuesNumber, Bool.or_assoc, Bool.or_assoc, Bool.or_eq_false_iff] at hcontinues
    exact hcontinues.1
  by_cases hn : n = 0
  · rw [hn]
    rfl
  · obtain ⟨c, digits, hdigits, hc⟩ := exists_ofNat_eq_cons (Nat.pos_of_ne_zero hn)
    rw [hdigits] at hspan ⊢
    rw [List.cons_append, scanWhole]
    · exact hspan
    · rintro _ ⟨⟩
      exact hc rfl

theorem scanFraction_of_endsNumber (h : EndsNumber rest) : scanFraction rest = ([], rest) := by
  unfold scanFraction
  split
  · exact absurd (h _ rfl) (by decide)
  · rfl

theorem scanExponent_of_endsNumber (h : EndsNumber rest) : scanExponent rest = (none, rest) := by
  unfold scanExponent
  split
  · next e _ =>
    have hne : ¬ (e = 'e' ∨ e = 'E') := by
      rintro (rfl | rfl) <;> exact absurd (h _ rfl) (by decide)
    rw [if_neg hne]
  · rfl

theorem scanMagnitude?_ofNat {n : Nat} (hn : (Text.ofNat n).length ≤ Integer.maxDigits)
    (h : EndsNumber rest) (negative : Bool) :
    scanMagnitude? negative (Text.ofNat n ++ rest) =
      some (.number (.int (if negative then -n else n)), rest) := by
  have hsome : (Text.ofNat n).isEmpty = false := by
    rw [Text.ofNat, Text.ofDigits, List.isEmpty_map]
    exact List.isEmpty_eq_false_iff.2 Nat.toDigits_ne_nil
  simp only [scanMagnitude?, scanWhole_ofNat h, scanFraction_of_endsNumber h,
    scanExponent_of_endsNumber h, hsome]
  rw [if_neg Bool.false_ne_true, numberToken, if_pos (by rfl), if_neg (Nat.not_lt.2 hn),
    digitsValue_ofNat]

/-- A word does not begin like a number. -/
theorem scanWord?_eq_none {p : CodePoint} {t : Text}
    (hp : p.isAsciiDigit ∨ ∃ q, t.head? = some q ∧ q.isAsciiDigit) : scanWord? (p :: t) = none := by
  have hwords : ∀ entry ∈ words, ∃ a b rest,
      entry.1 = a :: b :: rest ∧ a.isAsciiDigit = false ∧ b.isAsciiDigit = false := by
    unfold words
    simp only [List.forall_mem_cons, List.not_mem_nil, false_implies, implies_true, and_true]
    exact ⟨⟨_, _, _, rfl, rfl, rfl⟩, ⟨_, _, _, rfl, rfl, rfl⟩, ⟨_, _, _, rfl, rfl, rfl⟩,
      ⟨_, _, _, rfl, rfl, rfl⟩, ⟨_, _, _, rfl, rfl, rfl⟩, ⟨_, _, _, rfl, rfl, rfl⟩⟩
  refine List.findSome?_eq_none_iff.2 fun ⟨word, token⟩ hmem => ?_
  obtain ⟨a, b, rest, hword, ha, hb⟩ := hwords _ hmem
  refine Option.map_eq_none_iff.2 ?_
  cases hafter : Text.after? (p :: t) word with
  | none => rfl
  | some behind =>
    have hsplit := Text.after?_eq_some hafter
    have hbegin : word = a :: b :: rest := hword
    rw [hbegin, List.cons_append] at hsplit
    obtain ⟨rfl, rfl⟩ := List.cons_eq_cons.1 hsplit
    rcases hp with hp | ⟨q, hq, hdigit⟩
    · rw [ha] at hp
      cases hp
    · cases hq
      rw [hb] at hdigit
      cases hdigit

/-- A digit, or a sign with a digit behind it, begins no other token than a number. -/
theorem tokens_of_scanNumber? {p : CodePoint} {t after : Text} {token : Token}
    (hp : p.isAsciiDigit ∨ p = .char '-' ∧ ∃ q, t.head? = some q ∧ q.isAsciiDigit)
    (hs : scanNumber? (p :: t) = some (token, after)) :
    tokens (p :: t) = token :: tokens after := by
  have hword : scanWord? (p :: t) = none := scanWord?_eq_none (hp.imp_right And.right)
  have hseparator : isSeparator p = false := by
    cases h : isSeparator p with
    | false => rfl
    | true =>
      simp only [isSeparator, Bool.or_eq_true, beq_iff_eq] at h
      rcases h with ((rfl | rfl) | rfl) | rfl <;> simp [CodePoint.isAsciiDigit] at hp
  have hquote : p ≠ .char '"' := by
    rintro rfl
    simp [CodePoint.isAsciiDigit] at hp
  have hmark : mark? p = none := by
    unfold mark?
    split <;> first | rfl | simp [CodePoint.isAsciiDigit] at hp
  refine tokens_cons hseparator ?_
  rw [scanToken, if_neg hquote, hmark]
  dsimp only
  rw [hword, hs]
  rfl

/-- A whole number in decimal digits. -/
theorem tokens_ofInt {i : Int} (hi : (Text.ofNat i.natAbs).length ≤ Integer.maxDigits)
    (h : EndsNumber rest) : tokens (Text.ofInt i ++ rest) = .number (.int i) :: tokens rest := by
  cases i with
  | ofNat n =>
    obtain ⟨p, t, hdigits, hp⟩ := exists_digit_ofNat n
    have hread : scanMagnitude? false (Text.ofNat n ++ rest) =
        some (.number (.int n), rest) := scanMagnitude?_ofNat hi h false
    have hsign : p ≠ .char '-' := by
      rintro rfl
      cases hp
    show tokens (Text.ofNat n ++ rest) = _
    rw [hdigits, List.cons_append] at hread ⊢
    refine tokens_of_scanNumber? (.inl hp) ?_
    rw [scanNumber?]
    · exact hread
    · rintro _ ⟨⟩
      exact hsign rfl
  | negSucc n =>
    obtain ⟨p, t, hdigits, hp⟩ := exists_digit_ofNat (n + 1)
    have hread : scanNumber? (.char '-' :: (Text.ofNat (n + 1) ++ rest)) =
        some (.number (.int (.negSucc n)), rest) := scanMagnitude?_ofNat hi h true
    refine tokens_of_scanNumber? (.inr ⟨rfl, p, ?_, hp⟩) hread
    rw [hdigits]
    rfl

/-! ## Written tokens -/

/-- The token as it is written, with `gap` behind a comma and a colon. A token that stands for a
fault is not written. -/
def Token.spelled (gap : Text) : Token → Text
  | .openList => [.char '[']
  | .closeList => [.char ']']
  | .openObject => [.char '\x7b']
  | .closeObject => [.char '\x7d']
  | .comma => .char ',' :: gap
  | .colon => .char ':' :: gap
  | .null => "null"
  | .bool value => if value then "true" else "false"
  | .number value => value.encode
  | .text value => Quoted.encode value
  | .badText _ | .hugeNumber _ | .stray => []

/-- The token is a number. -/
def Token.isNumber : Token → Bool
  | .number _ => true
  | _ => false

/-- The token is written as it is read: it stands for no fault, and a number is a whole one of no
more digits than are read. -/
def Token.IsWritten : Token → Prop
  | .number (.int value) => (Text.ofNat value.natAbs).length ≤ Integer.maxDigits
  | .number (.float _) | .badText _ | .hugeNumber _ | .stray => False
  | _ => True

section Spelled

variable {gap : Text}

/-- A written token is read back. -/
theorem tokens_spelled_append (hgap : ∀ p ∈ gap, isSeparator p) {token : Token}
    (h : token.IsWritten) (hend : token.isNumber → EndsNumber rest) :
    tokens (token.spelled gap ++ rest) = token :: tokens rest := by
  have hword {word t : Text} {p : CodePoint} (hmem : (word, token) ∈ words)
      (hw : word = p :: t) (hseparator : isSeparator p = false)
      (hmark : (p == .char '"' || (mark? p).isSome) = false) :
      tokens (word ++ rest) = token :: tokens rest := by
    have hread := scanWord?_append hmem rest
    rw [Bool.or_eq_false_iff, beq_eq_false_iff_ne, Option.isSome_eq_false_iff,
      Option.isNone_iff_eq_none] at hmark
    rw [hw, List.cons_append] at hread ⊢
    refine tokens_cons hseparator ?_
    rw [scanToken, if_neg hmark.1, hmark.2]
    dsimp only
    rw [hread]
    rfl
  -- only a comma and a colon have a gap behind them
  cases token with
  | openList | closeList | openObject | closeObject => exact tokens_cons rfl rfl
  | comma =>
    have hs : scanToken (.char ',') (gap ++ rest) = (.comma, gap ++ rest) := rfl
    rw [Token.spelled, List.cons_append, tokens_cons rfl hs, tokens_separators hgap]
  | colon =>
    have hs : scanToken (.char ':') (gap ++ rest) = (.colon, gap ++ rest) := rfl
    rw [Token.spelled, List.cons_append, tokens_cons rfl hs, tokens_separators hgap]
  | null => exact hword (List.mem_of_getElem? (i := 0) rfl) rfl rfl rfl
  | bool value =>
    cases value with
    | true => exact hword (List.mem_of_getElem? (i := 1) rfl) rfl rfl rfl
    | false => exact hword (List.mem_of_getElem? (i := 2) rfl) rfl rfl rfl
  | number value =>
    cases value with
    | int value => exact tokens_ofInt h (hend rfl)
    | float value => cases h
  | text value =>
    rw [Token.spelled, Quoted.encode, List.cons_append, List.append_assoc]
    refine tokens_cons rfl ?_
    rw [scanToken, if_pos rfl, List.cons_append, List.nil_append, Quoted.scan_escaped]
  | badText | hugeNumber | stray => cases h

/-- Only a number continues a number. -/
theorem endsNumber_spelled {token : Token} (h : token.IsWritten) (hn : token.isNumber = false) :
    EndsNumber (token.spelled gap ++ rest) := by
  intro p hp
  cases token with
  | openList | closeList | openObject | closeObject | comma | colon | null | text =>
    cases hp
    decide
  | bool value => cases value <;> cases hp <;> decide
  | number => cases hn
  | badText | hugeNumber | stray => cases h

/-- Tokens that are written one after the other are read back, if no two neighbours are numbers. -/
theorem tokens_spelled (hgap : ∀ p ∈ gap, isSeparator p) {ts : List Token}
    (h : ∀ token ∈ ts, token.IsWritten)
    (hchain : ts.IsChain fun a b => ¬ (a.isNumber ∧ b.isNumber)) (hrest : EndsNumber rest) :
    tokens (ts.flatMap (Token.spelled gap) ++ rest) = ts ++ tokens rest := by
  induction ts with
  | nil => rfl
  | cons token ts ih =>
    obtain ⟨htoken, hts⟩ := List.forall_mem_cons.1 h
    have hend : token.isNumber → EndsNumber (ts.flatMap (Token.spelled gap) ++ rest) := by
      intro hnumber
      cases ts with
      | nil => exact hrest
      | cons next ts =>
        have hnext := (List.isChain_cons_cons.1 hchain).1
        rw [List.flatMap_cons, List.append_assoc]
        exact endsNumber_spelled (hts next List.mem_cons_self) (by simpa [hnumber] using hnext)
    rw [List.flatMap_cons, List.append_assoc, tokens_spelled_append hgap htoken hend,
      ih hts hchain.tail, List.cons_append]

end Spelled

end Json

end Playback
