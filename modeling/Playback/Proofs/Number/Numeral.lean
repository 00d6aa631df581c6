import Mathlib.Data.List.TakeWhile
import Playback.Number.Integer

/-!
# The texts that are whole numbers

* `CodePoint.isDecimal`: the decimal digits of all scripts, which are among the digits
  (`CodePoint.isDigit_of_isDecimal`).
* `Text.IsMagnitude`: decimal digits, of which there is at least one and at most
  `Integer.maxDigits`. `Text.IsNumeral`: such digits behind at most one minus sign.
* `Integer.exists_read_iff`: the numerals are the texts that are read as whole numbers.
  `Text.numeralValue`: the number that a numeral writes. `Integer.read_eq_ok_iff`: it is read as
  this number.
-/

namespace Playback

/-- Is the code point a decimal digit of some script? -/
def CodePoint.isDecimal (p : CodePoint) : Bool := p.decimalValue?.isSome

/-- The decimal digits are among the digits. -/
theorem CodePoint.isDigit_of_isDecimal {p : CodePoint} (h : p.isDecimal) : p.isDigit := by
  have htable : ∀ start ∈ decimalZeros, ∃ range ∈ digitRanges,
      range.1 ≤ start ∧ start + 9 ≤ range.2 := by decide +kernel
  unfold isDecimal decimalValue? at h
  rw [Option.isSome_map, List.find?_isSome] at h
  obtain ⟨start, hstart, hp⟩ := h
  obtain ⟨range, hrange, hlow, hhigh⟩ := htable start hstart
  simp only [Bool.and_eq_true, decide_eq_true_eq] at hp
  refine List.any_eq_true.2 ⟨range, hrange, ?_⟩
  simp only [Bool.and_eq_true, decide_eq_true_eq]
  omega

namespace Text

/-- Decimal digits, at least one and not more than are read. -/
structure IsMagnitude (t : Text) : Prop where
  ne_nil : t ≠ []
  isDecimal : ∀ p ∈ t, p.isDecimal
  length_le : t.length ≤ Integer.maxDigits

/-- Decimal digits behind a minus sign or none. -/
def IsNumeral (t : Text) : Prop :=
  ∃ digits, digits.IsMagnitude ∧ (t = digits ∨ t = .char '-' :: digits)

/-- The number that decimal digits write, behind a minus sign or none. -/
def numeralValue : Text → Int
  | .char '-' :: digits => -(Integer.ofDigits (digits.filterMap CodePoint.decimalValue?) : Int)
  | digits => Integer.ofDigits (digits.filterMap CodePoint.decimalValue?)

theorem isNumeral_minus_iff {rest : Text} : IsNumeral (.char '-' :: rest) ↔ rest.IsMagnitude := by
  constructor
  · rintro ⟨digits, hd, rfl | h⟩
    · have : CodePoint.isDecimal (.char '-') := hd.isDecimal _ List.mem_cons_self
      exact absurd this (by decide)
    · cases h
      exact hd
  · intro h
    exact ⟨rest, h, .inr rfl⟩

theorem isNumeral_iff_of_head {t : Text} (h : ∀ rest, t ≠ .char '-' :: rest) :
    t.IsNumeral ↔ t.IsMagnitude := by
  constructor
  · rintro ⟨digits, hd, rfl | ht⟩
    · exact hd
    · exact absurd ht (h digits)
  · intro hd
    exact ⟨t, hd, .inl rfl⟩

end Text

namespace Integer

/-- The digits that a text begins with are those in front of the first code point that is none. -/
theorem leadingDigits_eq (t : Text) :
    (leadingDigits t).1.length = (t.takeWhile (·.isDecimal)).length ∧
      (leadingDigits t).2 = t.dropWhile (·.isDecimal) := by
  induction t with
  | nil => exact ⟨rfl, rfl⟩
  | cons p rest ih =>
    cases hp : p.decimalValue? with
    | none => simp [leadingDigits, CodePoint.isDecimal, hp]
    | some digit => simp [leadingDigits, CodePoint.isDecimal, hp, ih.1, ih.2]

/-- What is read behind a sign that was taken off. -/
private theorem magnitude_iff {text t : Text} {value : Int} :
    (∃ v, (if (leadingDigits t).1.length > maxDigits then
        .error (.tooManyDigits (leadingDigits t).1.length)
      else if (leadingDigits t).1.isEmpty || !(leadingDigits t).2.isEmpty then
        .error (.notANumber text)
      else .ok value : Except Fault Int) = .ok v) ↔ t.IsMagnitude := by
  obtain ⟨hlength, hrest⟩ := leadingDigits_eq t
  have hempty : (leadingDigits t).1.isEmpty = (t.takeWhile (·.isDecimal)).isEmpty := by
    rw [Bool.eq_iff_iff, List.isEmpty_iff_length_eq_zero, List.isEmpty_iff_length_eq_zero, hlength]
  rw [hempty, hlength, hrest]
  constructor
  · rintro ⟨v, h⟩
    split at h
    · cases h
    · next hmax =>
      split at h
      · cases h
      · next hall =>
        have hdrop : t.dropWhile (·.isDecimal) = [] := by simp_all
        have hdigits : ∀ p ∈ t, p.isDecimal := List.dropWhile_eq_nil_iff.1 hdrop
        rw [List.takeWhile_eq_self_iff.2 hdigits] at hmax hall
        exact ⟨by simp_all, hdigits, Nat.not_lt.1 hmax⟩
  · intro h
    have hmax : ¬ t.length > maxDigits := Nat.not_lt.2 h.length_le
    have hall : ¬ (t.isEmpty || !([] : Text).isEmpty) = true := by simpa using h.ne_nil
    rw [List.takeWhile_eq_self_iff.2 h.isDecimal, List.dropWhile_eq_nil_iff.2 h.isDecimal,
      if_neg hmax, if_neg hall]
    exact ⟨value, rfl⟩

/-- A text is read as a whole number exactly if it is a numeral. -/
theorem exists_read_iff {t : Text} : (∃ value, read t = .ok value) ↔ t.IsNumeral := by
  by_cases ht : ∃ rest, t = .char '-' :: rest
  · obtain ⟨rest, rfl⟩ := ht
    rw [Text.isNumeral_minus_iff]
    exact magnitude_iff
  · have hhead : ∀ rest, t ≠ .char '-' :: rest := fun rest h => ht ⟨rest, h⟩
    rw [Text.isNumeral_iff_of_head hhead]
    unfold read
    split
    next negative magnitude hsign =>
    split at hsign
    · next rest => exact absurd rfl (hhead rest)
    · cases hsign
      exact magnitude_iff

/-- The values of decimal digits are the digits that are read. -/
theorem leadingDigits_of_isMagnitude {t : Text} (h : t.IsMagnitude) :
    (leadingDigits t).1 = t.filterMap CodePoint.decimalValue? := by
  have hall := h.isDecimal
  clear h
  induction t with
  | nil => rfl
  | cons p rest ih =>
    obtain ⟨hp, hrest⟩ := List.forall_mem_cons.1 hall
    obtain ⟨digit, hdigit⟩ := Option.isSome_iff_exists.1 hp
    rw [leadingDigits, hdigit, List.filterMap_cons, hdigit]
    exact congrArg (digit :: ·) (ih hrest)

/-- What is read is a numeral, and its number. -/
theorem read_eq_ok_iff {t : Text} {value : Int} :
    read t = .ok value ↔ t.IsNumeral ∧ value = t.numeralValue := by
  have heq {value : Int} (h : read t = .ok value) : value = t.numeralValue := by
    obtain ⟨digits, hd, ht⟩ := exists_read_iff.1 ⟨value, h⟩
    have hdigits := leadingDigits_of_isMagnitude hd
    unfold read at h
    split at h
    next negative magnitude hsign =>
    split at h
    next values rest hvalues =>
    have hvalues : (leadingDigits magnitude).1 = values := by rw [hvalues]
    split at h
    · cases h
    split at h
    · cases h
    cases h
    split at hsign
    · next rest =>
      cases hsign
      rcases ht with rfl | ht
      · have hminus : CodePoint.isDecimal (.char '-') := hd.isDecimal _ List.mem_cons_self
        exact absurd hminus (by decide)
      · rw [← hvalues, (List.cons.inj ht).2, hdigits]
        rfl
    · next hminus =>
      cases hsign
      rcases ht with rfl | rfl
      · rw [← hvalues, hdigits, Text.numeralValue.eq_2 _ hminus]
        rfl
      · exact absurd rfl (hminus digits)
  constructor
  · intro h
    exact ⟨exists_read_iff.1 ⟨value, h⟩, heq h⟩
  · rintro ⟨ht, rfl⟩
    obtain ⟨value, h⟩ := exists_read_iff.2 ht
    rw [h, heq h]

end Integer

end Playback
