import Playback.Proofs.Number.Words

/-!
# Numbers as literals

A whole number is a literal of digits, and a finite floating-point number one with a point or an
exponent. Numbers that are not finite have no literal: what is shown of them is a word.

* `Text.IsIntegerLiteral`, `Text.IsFloatLiteral`: the decimal literals of the generated program's
  language. `Text.IsNumberLiteral`: one of the two behind at most one minus sign.
* `Text.WritesInteger`: a literal of a whole number, and the number.
* `Text.writesInteger_ofInt`: a whole number is shown as its literal.
* `Number.isNumberLiteral_shown_iff`: a number is shown as a literal exactly if it is finite.
-/

namespace Playback

namespace Text

/-! ## The literals of the language -/

/-- Digits, which single low lines may group. -/
inductive IsDigitPart : Text → Prop
  | digit {p : CodePoint} (hp : p.isAsciiDigit) : IsDigitPart [p]
  | cons {p : CodePoint} {t : Text} (hp : p.isAsciiDigit) (h : IsDigitPart t) : IsDigitPart (p :: t)
  | grouped {p : CodePoint} {t : Text} (hp : p.isAsciiDigit) (h : IsDigitPart t) :
    IsDigitPart (p :: .char '_' :: t)

/-- The number that digits write, low lines apart. -/
def digitPartValue (t : Text) : Nat := Json.digitsValue (t.filter (· != .char '_'))

/-- A whole number without a sign. A zero stands in front of other digits only if they are all
zeros. -/
def IsIntegerLiteral (t : Text) : Prop :=
  t.IsDigitPart ∧ (t.head? = some (.char '0') → digitPartValue t = 0)

/-- Digits with a point in front of them, behind them or among them. -/
inductive IsPointLiteral : Text → Prop
  | leading {back : Text} (hb : back.IsDigitPart) : IsPointLiteral (.char '.' :: back)
  | trailing {front : Text} (hf : front.IsDigitPart) : IsPointLiteral (front ++ [.char '.'])
  | among {front back : Text} (hf : front.IsDigitPart) (hb : back.IsDigitPart) :
    IsPointLiteral (front ++ .char '.' :: back)

/-- A floating-point number without a sign: digits with a point, an exponent or both. -/
inductive IsFloatLiteral : Text → Prop
  | point {t : Text} (h : t.IsPointLiteral) : IsFloatLiteral t
  | exponent {t mark size : Text} (ht : t.IsDigitPart ∨ t.IsPointLiteral)
    (hm : mark ∈ (["e", "E", "e+", "E+", "e-", "E-"] : List Text)) (hs : size.IsDigitPart) :
    IsFloatLiteral (t ++ mark ++ size)

/-- A number behind a minus sign or none. -/
def IsNumberLiteral (t : Text) : Prop :=
  ∃ magnitude : Text, (magnitude.IsIntegerLiteral ∨ magnitude.IsFloatLiteral) ∧
    (t = magnitude ∨ t = .char '-' :: magnitude)

/-- The text is the literal of a whole number, behind a minus sign if the number is negative. -/
def WritesInteger (t : Text) (i : Int) : Prop :=
  ∃ magnitude : Text, magnitude.IsIntegerLiteral ∧
    (t = magnitude ∧ i = digitPartValue magnitude ∨
      t = .char '-' :: magnitude ∧ i = -(digitPartValue magnitude : Int))

theorem WritesInteger.isNumberLiteral {t : Text} {i : Int} (h : t.WritesInteger i) :
    t.IsNumberLiteral := by
  obtain ⟨magnitude, hm, ⟨ht, -⟩ | ⟨ht, -⟩⟩ := h
  · exact ⟨magnitude, .inl hm, .inl ht⟩
  · exact ⟨magnitude, .inl hm, .inr ht⟩

/-! ## Where literals begin -/

theorem IsDigitPart.exists_cons {t : Text} (h : t.IsDigitPart) :
    ∃ p rest, t = p :: rest ∧ p.isAsciiDigit := by
  cases h with
  | digit hp | cons hp _ | grouped hp _ => exact ⟨_, _, rfl, hp⟩

/-- A number without a sign begins with a digit or a point. -/
theorem exists_cons_of_literal {t : Text} (h : t.IsIntegerLiteral ∨ t.IsFloatLiteral) :
    ∃ p rest, t = p :: rest ∧ (p.isAsciiDigit ∨ p = .char '.') := by
  have hdigits {t : Text} (h : t.IsDigitPart) (back : Text) :
      ∃ p rest, t ++ back = p :: rest ∧ (p.isAsciiDigit ∨ p = .char '.') := by
    obtain ⟨p, rest, rfl, hp⟩ := h.exists_cons
    exact ⟨p, rest ++ back, rfl, .inl hp⟩
  have hpoint {t : Text} (h : t.IsPointLiteral) (back : Text) :
      ∃ p rest, t ++ back = p :: rest ∧ (p.isAsciiDigit ∨ p = .char '.') := by
    cases h with
    | leading => exact ⟨_, _, rfl, .inr rfl⟩
    | trailing hf | among hf =>
      rw [List.append_assoc]
      exact hdigits hf _
  rcases h with h | h
  · simpa using hdigits h.1 []
  · cases h with
    | point h => simpa using hpoint h []
    | exponent ht =>
      rw [List.append_assoc]
      exact ht.elim (hdigits · _) (hpoint · _)

/-- What begins like a word is no number, with a minus sign in front of it or without one. -/
theorem not_isNumberLiteral {p : CodePoint} (hd : p.isAsciiDigit = false) (hpoint : p ≠ .char '.')
    (hminus : p ≠ .char '-') (rest : Text) :
    ¬ IsNumberLiteral (p :: rest) ∧ ¬ IsNumberLiteral (.char '-' :: p :: rest) := by
  have hbegins {q : CodePoint} {tail : Text}
      (h : IsIntegerLiteral (q :: tail) ∨ IsFloatLiteral (q :: tail)) :
      q.isAsciiDigit = true ∨ q = .char '.' := by
    obtain ⟨_, _, ht, hq⟩ := exists_cons_of_literal h
    cases ht
    exact hq
  have hword (h : IsIntegerLiteral (p :: rest) ∨ IsFloatLiteral (p :: rest)) : False :=
    (hbegins h).elim (by simp [hd]) hpoint
  constructor
  · rintro ⟨magnitude, hm, rfl | h⟩
    · exact hword hm
    · exact hminus (List.cons.inj h).1
  · rintro ⟨magnitude, hm, rfl | h⟩
    · exact (hbegins hm).elim (by decide) (by decide)
    · rw [← (List.cons.inj h).2] at hm
      exact hword hm

/-! ## Whole numbers -/

section Digits

variable {digits : Text} (hd : ∀ p ∈ digits, p.isAsciiDigit)

include hd

theorem isDigitPart_of_digits (hne : digits ≠ []) : digits.IsDigitPart := by
  induction digits with
  | nil => exact absurd rfl hne
  | cons p digits ih =>
    obtain ⟨hp, hdigits⟩ := List.forall_mem_cons.1 hd
    cases digits with
    | nil => exact .digit hp
    | cons q digits => exact .cons hp (ih hdigits (List.cons_ne_nil q digits))

theorem digitPartValue_digits : digitPartValue digits = Json.digitsValue digits := by
  rw [digitPartValue, List.filter_eq_self.2]
  rintro p hp
  refine bne_iff_ne.2 ?_
  rintro rfl
  exact absurd (hd _ hp) (by decide)

end Digits

theorem ofNat_ne_nil (n : Nat) : ofNat n ≠ [] := by
  rw [ofNat, ofDigits, Ne, List.map_eq_nil_iff]
  exact Nat.toDigits_ne_nil

theorem isDigitPart_ofNat (n : Nat) : (ofNat n).IsDigitPart :=
  isDigitPart_of_digits (Json.isAsciiDigit_of_mem_ofNat n) (ofNat_ne_nil n)

theorem digitPartValue_ofNat (n : Nat) : digitPartValue (ofNat n) = n := by
  rw [digitPartValue_digits (Json.isAsciiDigit_of_mem_ofNat n), Json.digitsValue_ofNat]

theorem isIntegerLiteral_ofNat (n : Nat) : (ofNat n).IsIntegerLiteral := by
  refine ⟨isDigitPart_ofNat n, fun hzero => ?_⟩
  rw [digitPartValue_ofNat]
  by_contra hn
  obtain ⟨c, rest, hdigits, hc⟩ := Json.exists_ofNat_eq_cons (Nat.pos_of_ne_zero hn)
  rw [hdigits] at hzero
  cases hzero
  exact hc rfl

/-- A whole number is shown as its literal. -/
theorem writesInteger_ofInt (i : Int) : (ofInt i).WritesInteger i := by
  cases i with
  | ofNat n =>
    exact ⟨ofNat n, isIntegerLiteral_ofNat n, .inl ⟨rfl, by rw [digitPartValue_ofNat]; rfl⟩⟩
  | negSucc n =>
    refine ⟨ofNat (n + 1), isIntegerLiteral_ofNat _, .inr ⟨rfl, ?_⟩⟩
    rw [digitPartValue_ofNat]
    rfl

end Text

/-! ## Floating-point numbers -/

namespace Binary64

open Text

/-- Digits in every notation are a literal with a point or an exponent. -/
theorem isFloatLiteral_notated {digits : Text} (hd : ∀ p ∈ digits, p.isAsciiDigit)
    (hne : digits ≠ []) (place : Int) : (notated digits place).IsFloatLiteral := by
  have htake (n : Nat) : ∀ p ∈ digits.take n, p.isAsciiDigit :=
    fun p hp => hd p (List.mem_of_mem_take hp)
  have hdrop (n : Nat) : ∀ p ∈ digits.drop n, p.isAsciiDigit :=
    fun p hp => hd p (List.mem_of_mem_drop hp)
  have hzero : IsDigitPart "0" := .digit (by decide)
  have hpos : 0 < digits.length := List.length_pos_of_ne_nil hne
  unfold notated
  dsimp only
  split
  · -- a point behind the digits, among them, or in front of them
    split
    · have hfront : IsDigitPart (digits ++ zeros place) :=
        isDigitPart_of_digits (List.forall_mem_append.2 ⟨hd, isAsciiDigit_zeros _⟩) (by simp [hne])
      exact .point (.among hfront hzero)
    · split
      · next hneg horder =>
        have hfront : digits.take ((place + digits.length - 1).toNat + 1) ≠ [] := by
          simp [hne]
        have hback : digits.drop ((place + digits.length - 1).toNat + 1) ≠ [] := by
          rw [Ne, List.drop_eq_nil_iff]
          omega
        have hpoint := IsPointLiteral.among (isDigitPart_of_digits (htake _) hfront)
          (isDigitPart_of_digits (hdrop _) hback)
        rw [List.append_assoc]
        exact .point hpoint
      · have hback : IsDigitPart (zeros (-(place + digits.length - 1) - 1) ++ digits) :=
          isDigitPart_of_digits (List.forall_mem_append.2 ⟨isAsciiDigit_zeros _, hd⟩)
            (by simp [hne])
        rw [List.append_assoc]
        exact .point (.among hzero hback)
  · -- one digit, a fraction if there are more, and an exponent of two digits or more
    have hfront : IsDigitPart (digits.take 1) := isDigitPart_of_digits (htake 1) (by simp [hne])
    have hmantissa {fraction : Text}
        (h : fraction = [] ∨ ∃ back, fraction = .char '.' :: back ∧ IsDigitPart back) :
        IsDigitPart (digits.take 1 ++ fraction) ∨ IsPointLiteral (digits.take 1 ++ fraction) := by
      rcases h with rfl | ⟨back, rfl, hback⟩
      · exact .inl (by rwa [List.append_nil])
      · exact .inr (.among hfront hback)
    have hsize := isDigitPart_ofNat (place + digits.length - 1).natAbs
    refine .exponent (hmantissa ?_) ?_ ?_
    · split
      · exact .inl rfl
      · next hsome =>
        exact .inr ⟨_, rfl, isDigitPart_of_digits (hdrop 1) fun hnil => hsome hnil⟩
    · split <;> decide
    · split
      · exact .cons (by decide) hsize
      · exact hsize

end Binary64

namespace Number

open Text

/-- A number is shown as a literal exactly if it is finite. -/
theorem isNumberLiteral_shown_iff (n : Number) : n.shown.IsNumberLiteral ↔ n.isFinite := by
  cases n with
  | int value => exact iff_of_true (writesInteger_ofInt value).isNumberLiteral rfl
  | float value =>
    cases value with
    | nan =>
      exact iff_of_false (not_isNumberLiteral (by decide) (by decide) (by decide) _).1
        Bool.false_ne_true
    | infinite negative =>
      have hword := not_isNumberLiteral (p := .char 'i') (by decide) (by decide) (by decide) "nf"
      cases negative
      · exact iff_of_false hword.1 Bool.false_ne_true
      · exact iff_of_false hword.2 Bool.false_ne_true
    | finite negative significand exponent =>
      refine iff_of_true ?_ rfl
      have hsigned {t : Text} (ht : t.IsFloatLiteral) :
          IsNumberLiteral ((if negative then Text.ofString "-" else "") ++ t) := by
        cases negative
        · exact ⟨t, .inr ht, .inl rfl⟩
        · exact ⟨t, .inr ht, .inr rfl⟩
      have hzero : IsDigitPart "0" := .digit (by decide)
      unfold Number.shown Binary64.shown
      dsimp only
      split
      · exact hsigned (.point (.among hzero hzero))
      · next hs =>
        have hpos := Binary64.shortest_pos (Nat.pos_of_ne_zero hs) exponent
        exact hsigned (Binary64.isFloatLiteral_notated (Binary64.isAsciiDigit_trimmedDigits _)
          (Binary64.trimmedDigits_ne_nil hpos) _)

end Number

end Playback
