import Mathlib.Data.List.TakeWhile
import Playback.Proofs.Code.Lexemes

/-!
# The words of numbers

* `Text.numbersOnly`: every word of a text begins with a digit, so that no word is a name.
* `Binary64.shortest_pos`: the shortest digits of a number that is not zero are not zero either.
* `Number.numbersOnly_shown`: the words of a finite number begin with digits.
-/

namespace Playback

namespace Text

/-- Does the text begin with a digit? -/
def beginsWithDigit (t : Text) : Bool := t.head?.any CodePoint.isAsciiDigit

/-- Does every word of the text begin with a digit? A word in front of it goes on if `inside`. -/
def numbersOnly (inside : Bool) : Text → Bool
  | [] => true
  | p :: rest =>
    if p.isNamePart then (inside || p.isAsciiDigit) && numbersOnly true rest
    else numbersOnly false rest

section NumbersOnly

variable {digits t : Text} {inside : Bool}

theorem numbersOnly_true (h : numbersOnly false t) : numbersOnly true t := by
  cases t with
  | nil => rfl
  | cons p rest =>
    unfold numbersOnly at h ⊢
    split at h
    · next hp =>
      rw [if_pos hp, Bool.true_or, Bool.true_and]
      exact (Bool.and_eq_true_iff.1 h).2
    · next hp => rwa [if_neg hp]

/-- Digits go on with a word, and begin one. -/
theorem numbersOnly_digits_append (hd : ∀ p ∈ digits, p.isAsciiDigit) (hne : digits ≠ []) :
    numbersOnly inside (digits ++ t) = numbersOnly true t := by
  induction digits generalizing inside with
  | nil => exact absurd rfl hne
  | cons p digits ih =>
    obtain ⟨hp, hdigits⟩ := List.forall_mem_cons.1 hd
    have hpart : p.isNamePart := by simp [CodePoint.isNamePart, hp]
    rw [List.cons_append, numbersOnly, if_pos hpart, hp, Bool.or_true, Bool.true_and]
    cases digits with
    | nil => rfl
    | cons q digits => exact ih hdigits (List.cons_ne_nil q digits)

theorem numbersOnly_append (hd : ∀ p ∈ digits, p.isAsciiDigit) (ht : numbersOnly false t) :
    numbersOnly inside (digits ++ t) := by
  cases digits with
  | nil =>
    cases inside
    · exact ht
    · exact numbersOnly_true ht
  | cons p digits =>
    rw [numbersOnly_digits_append hd (List.cons_ne_nil p digits)]
    exact numbersOnly_true ht

theorem numbersOnly_digits (hd : ∀ p ∈ digits, p.isAsciiDigit) : numbersOnly inside digits := by
  have h : numbersOnly inside (digits ++ []) := numbersOnly_append hd rfl
  rwa [List.append_nil] at h

end NumbersOnly

/-- The words among code of such a text begin with digits. -/
theorem beginsWithDigit_of_mem_lexemesBehind {t word w : Text}
    (hword : word = [] ∨ word.beginsWithDigit) (h : numbersOnly (!word.isEmpty) t)
    (hw : .word w ∈ Piece.lexemesBehind word (t.map .code)) : w.beginsWithDigit := by
  have hended {word : Text} (hword : word = [] ∨ word.beginsWithDigit)
      (hw : Lexeme.word w ∈ (Piece.ended word).map .word) : w.beginsWithDigit := by
    unfold Piece.ended at hw
    split at hw
    · cases hw
    · next hne =>
      cases List.mem_singleton.1 hw
      exact hword.resolve_left fun hnil => hne (by rw [hnil]; rfl)
  induction t generalizing word with
  | nil => exact hended hword hw
  | cons p t ih =>
    rw [List.map_cons, Piece.lexemesBehind] at hw
    rw [numbersOnly] at h
    split at hw
    · next hp =>
      rw [if_pos hp, Bool.and_eq_true, Bool.or_eq_true] at h
      refine ih (.inr ?_) ?_ hw
      · cases word with
        | nil => exact h.1.resolve_left (by simp)
        | cons q rest => exact hword.resolve_left (List.cons_ne_nil q rest)
      · have hsome : (word ++ [p]).isEmpty = false := by simp
        rw [hsome]
        exact h.2
    · next hp =>
      rw [if_neg hp] at h
      have hlater (hw : Lexeme.word w ∈ Piece.lexemesBehind [] (t.map .code)) :
          w.beginsWithDigit := ih (.inl rfl) h hw
      split at hw
      · exact hended hword hw
      · split at hw
        · exact (List.mem_append.1 hw).elim (hended hword) hlater
        · rcases List.mem_append.1 hw with hw | hw
          · exact hended hword hw
          · exact hlater ((List.mem_cons.1 hw).resolve_left Lexeme.noConfusion)

theorem beginsWithDigit_of_mem_lexemes {t w : Text} (ht : t.IsNumeric) (h : numbersOnly false t)
    (hw : .word w ∈ t.lexemes) : w.beginsWithDigit := by
  have hpieces : Piece.read? t = some (t.map .code) :=
    Piece.read?_of_not_mem fun hquote => absurd (ht _ hquote) (by decide)
  rw [lexemes, hpieces, Option.map_some, Option.getD_some] at hw
  exact beginsWithDigit_of_mem_lexemesBehind (.inl rfl) h hw

end Text

/-! ## Floating-point numbers -/

namespace Binary64

open Text

theorem power_pos {base : Nat} (h : 0 < base) (exponent : Int) : 0 < power base exponent :=
  Nat.pow_pos h

/-- What reads as a number that is not zero is not zero. -/
theorem readsAs_pos {significand digits : Nat} {exponent place : Int} (hs : 0 < significand)
    (h : readsAs significand exponent digits place) : 0 < digits := by
  refine Nat.pos_of_ne_zero ?_
  rintro rfl
  have hunit : 0 < power 2 exponent * power 10 (-place) :=
    Nat.mul_pos (power_pos (by decide) _) (power_pos (by decide) _)
  have hlow (below : Nat) (hbelow : below ≤ 2) :
      0 < (4 * significand - below) * (power 2 exponent * power 10 (-place)) :=
    Nat.mul_pos (by omega) hunit
  unfold readsAs at h
  simp only [Nat.mul_zero, Nat.zero_mul] at h
  have hpos := hlow (if significand = power 2 52 ∧ exponent > leastExponent then 1 else 2)
    (by split <;> omega)
  split at h
  · rw [Bool.and_eq_true, decide_eq_true_eq] at h
    omega
  · rw [Bool.and_eq_true, decide_eq_true_eq] at h
    omega

/-- The shortest digits of a number that is not zero are not zero. -/
theorem shortest_pos {significand : Nat} (hs : 0 < significand) (exponent : Int) :
    0 < (shortest significand exponent).1 := by
  have hreads {place : Int} {digits : Nat} (nearest other : Nat)
      (h : (if readsAs significand exponent nearest place then some nearest
        else if readsAs significand exponent other place then some other else none) =
          some digits) : 0 < digits := by
    split at h
    · next hnearest =>
      cases h
      exact readsAs_pos hs hnearest
    · split at h
      · next hother =>
        cases h
        exact readsAs_pos hs hother
      · cases h
  unfold shortest
  dsimp only
  generalize List.map _ (List.range 17) = places
  cases hfound : places.findSome? fun place =>
      (nearestMultiple? significand exponent place).map (·, place) with
  | none => exact hs
  | some found =>
    obtain ⟨_, place, _, -, hplace, -⟩ := List.findSome?_eq_some_iff.1 hfound
    obtain ⟨digits, hdigits, rfl⟩ := Option.map_eq_some_iff.1 hplace
    exact hreads _ _ hdigits

/-- A number that is not zero has digits without the zeros at its end. -/
theorem trimmedDigits_ne_nil {n : Nat} (h : 0 < n) : (trimmedDigits n).1 ≠ [] := by
  obtain ⟨c, rest, hn, hc⟩ := Json.exists_ofNat_eq_cons h
  unfold trimmedDigits
  rw [hn]
  dsimp only
  intro hnil
  have hall := List.dropWhile_eq_nil_iff.1 (List.reverse_eq_nil_iff.1 hnil)
  exact hc (by simpa using hall (.char c) (by simp))

theorem isAsciiDigit_trimmedDigits (n : Nat) : ∀ p ∈ (trimmedDigits n).1, p.isAsciiDigit := by
  intro p hp
  have hdigits := List.dropWhile_subset _ (List.mem_reverse.1 hp)
  exact Json.isAsciiDigit_of_mem_ofNat n p (List.mem_reverse.1 hdigits)

theorem isAsciiDigit_zeros (count : Int) : ∀ p ∈ zeros count, p.isAsciiDigit := by
  intro p hp
  rw [List.eq_of_mem_replicate hp]
  decide

/-- In every notation of digits the words begin with digits. -/
theorem numbersOnly_notated {digits : Text} (hd : ∀ p ∈ digits, p.isAsciiDigit)
    (hne : digits ≠ []) (place : Int) : numbersOnly false (notated digits place) := by
  have htake (n : Nat) : ∀ p ∈ digits.take n, p.isAsciiDigit :=
    fun p hp => hd p (List.mem_of_mem_take hp)
  have hdrop (n : Nat) : ∀ p ∈ digits.drop n, p.isAsciiDigit :=
    fun p hp => hd p (List.mem_of_mem_drop hp)
  have hpoint {t : Text} (ht : numbersOnly false t) : numbersOnly false ("." ++ t) := ht
  have hsize : ∀ p ∈ Text.ofNat (place + digits.length - 1).natAbs, p.isAsciiDigit :=
    Json.isAsciiDigit_of_mem_ofNat _
  unfold notated
  dsimp only
  split
  · -- a point with digits on both sides, so that the words on both sides begin with one
    split
    · rw [List.append_assoc]
      exact numbersOnly_append hd (numbersOnly_append (isAsciiDigit_zeros _) (by decide))
    · split
      · rw [List.append_assoc]
        exact numbersOnly_append (htake _) (hpoint (numbersOnly_digits (hdrop _)))
      · have hzero : ∀ p ∈ ("0" : Text), p.isAsciiDigit := by decide
        have hlead : ("0." : Text) = "0" ++ "." := rfl
        rw [hlead, List.append_assoc, List.append_assoc]
        exact numbersOnly_append hzero
          (hpoint (numbersOnly_append (isAsciiDigit_zeros _) (numbersOnly_digits hd)))
  · -- the exponent stands behind a digit, with or without a fraction
    have hexponent {size : Text} (hs : ∀ p ∈ size, p.isAsciiDigit) : numbersOnly true
        (Text.ofString (if place + digits.length - 1 < 0 then "e-" else "e+") ++ size) := by
      have hbehind : numbersOnly false size := numbersOnly_digits hs
      split <;> exact hbehind
    have hbehind : numbersOnly true
        (Text.ofString (if place + digits.length - 1 < 0 then "e-" else "e+") ++
          (if (Text.ofNat (place + digits.length - 1).natAbs).length < 2 then
            .char '0' :: Text.ofNat (place + digits.length - 1).natAbs
          else Text.ofNat (place + digits.length - 1).natAbs)) := by
      refine hexponent ?_
      split
      · exact List.forall_mem_cons.2 ⟨by decide, hsize⟩
      · exact hsize
    have hfirst : digits.take 1 ≠ [] := by
      intro hnil
      exact hne ((List.take_eq_nil_iff.1 hnil).resolve_left (by decide))
    rw [List.append_assoc, List.append_assoc, numbersOnly_digits_append (htake 1) hfirst]
    split
    · exact hbehind
    · next fraction hsome =>
      show numbersOnly false (digits.drop 1 ++ _)
      rw [numbersOnly_digits_append (hdrop 1) fun hnil => hsome hnil]
      exact hbehind

end Binary64

namespace Number

/-- Is the number a whole number or a finite floating-point number? -/
def isFinite : Number → Bool
  | .int _ => true
  | .float value => value.isFinite

/-- The words of a finite number begin with digits. -/
theorem numbersOnly_shown {n : Number} (h : n.isFinite) : Text.numbersOnly false n.shown := by
  have hnat (n : Nat) : Text.numbersOnly false (Text.ofNat n) :=
    Text.numbersOnly_digits (Json.isAsciiDigit_of_mem_ofNat n)
  cases n with
  | int value =>
    cases value with
    | ofNat n => exact hnat n
    | negSucc n => exact hnat (n + 1)
  | float value =>
    cases value with
    | nan => cases h
    | infinite negative => cases h
    | finite negative significand exponent =>
      have hsign {t : Text} (ht : Text.numbersOnly false t) :
          Text.numbersOnly false ((if negative then Text.ofString "-" else "") ++ t) := by
        cases negative <;> exact ht
      have hzero : Text.numbersOnly false "0.0" := by decide
      unfold Number.shown Binary64.shown
      dsimp only
      split
      · exact hsign hzero
      · next hs =>
        have hpos := Binary64.shortest_pos (Nat.pos_of_ne_zero hs) exponent
        exact hsign (Binary64.numbersOnly_notated (Binary64.isAsciiDigit_trimmedDigits _)
          (Binary64.trimmedDigits_ne_nil hpos) _)

end Number

end Playback
