import Playback.Number.Basic
import Playback.Proofs.Code.Piece

/-!
# The characters of numbers

Every number is shown in digits, signs, a point, an exponent, or the letters of a word
(`Number.forall_mem_shown`). These are numeric characters (`Number.isNumeric_shown`) and plain ones,
so a number cannot end or begin anything else in a line of code (`Number.isPlain_shown`).
-/

namespace Playback

/-- The characters of numbers and of words. -/
def CodePoint.isNumeric (p : CodePoint) : Bool :=
  p.isAsciiLetter || p.isAsciiDigit || (".+-" : Text).contains p

/-- Only characters of numbers and of words. -/
def Text.IsNumeric (t : Text) : Prop := ∀ p ∈ t, p.isNumeric

instance (t : Text) : Decidable (Text.IsNumeric t) :=
  inferInstanceAs (Decidable (∀ p ∈ t, p.isNumeric))

theorem Text.IsNumeric.isPlain {t : Text} (h : IsNumeric t) : IsPlain t := by
  intro p hp
  have hmarks : ∀ q ∈ (".+-" : Text), q.isPlain := by decide
  rcases Bool.or_eq_true_iff.1 (h p hp) with hword | hmark
  · simp only [CodePoint.isPlain, hword, Bool.true_or]
  · exact hmarks p (by simpa using hmark)

/-- The characters that numbers have besides digits, and zero, which is put in front and behind. -/
def numberMarks : Text := "0.+-einfa"

/-- A class of characters that has all those of numbers. -/
structure CodePoint.HoldsNumbers (within : CodePoint → Bool) : Prop where
  digit : ∀ p, p.isAsciiDigit → within p
  mark : ∀ p ∈ numberMarks, within p

theorem CodePoint.holdsNumbers_isNumeric : HoldsNumbers isNumeric where
  digit p hp := by simp [isNumeric, hp]
  mark := by decide

section Within

variable {within : CodePoint → Bool} (h : CodePoint.HoldsNumbers within)

include h

namespace Text

theorem forall_mem_ofNat (n : Nat) : ∀ p ∈ ofNat n, within p := by
  intro p hp
  obtain ⟨c, hc, rfl⟩ := List.mem_map.1 hp
  have hdigit : c.isDigit := Nat.isDigit_of_mem_toDigits (by decide) (by decide) hc
  exact h.digit _ (by simpa [Char.isDigit, CodePoint.isAsciiDigit, Char.le_def] using hdigit)

theorem forall_mem_ofInt (i : Int) : ∀ p ∈ ofInt i, within p := by
  cases i with
  | ofNat n => exact forall_mem_ofNat h n
  | negSucc n => exact List.forall_mem_cons.2 ⟨h.mark _ (by decide), forall_mem_ofNat h _⟩

/-- Words and marks of numbers. -/
theorem forall_mem_of_subset {t : Text} (ht : t ⊆ numberMarks) : ∀ p ∈ t, within p :=
  fun p hp => h.mark p (ht hp)

end Text

namespace Binary64

open Text

theorem forall_mem_zeros (count : Int) : ∀ p ∈ zeros count, within p := by
  intro p hp
  cases List.eq_of_mem_replicate hp
  exact h.mark _ (by decide)

theorem forall_mem_notated {digits : Text} (hd : ∀ p ∈ digits, within p) (place : Int) :
    ∀ p ∈ notated digits place, within p := by
  have happend {s t : Text} (hs : ∀ p ∈ s, within p) (ht : ∀ p ∈ t, within p) :
      ∀ p ∈ s ++ t, within p := List.forall_mem_append.2 ⟨hs, ht⟩
  have hmarks {t : Text} (ht : t ⊆ numberMarks) : ∀ p ∈ t, within p := forall_mem_of_subset h ht
  have hsize := forall_mem_ofNat h (place + digits.length - 1).natAbs
  have htake (n : Nat) : ∀ p ∈ digits.take n, within p := fun p hp => hd p (List.mem_of_mem_take hp)
  have hdrop (n : Nat) : ∀ p ∈ digits.drop n, within p := fun p hp => hd p (List.mem_of_mem_drop hp)
  unfold notated
  dsimp only
  split
  · split
    · exact happend (happend hd (forall_mem_zeros h _)) (hmarks (by decide))
    · split
      · exact happend (happend (htake _) (hmarks (by decide))) (hdrop _)
      · exact happend (happend (hmarks (by decide)) (forall_mem_zeros h _)) hd
  · refine happend (happend (happend (htake 1) ?_) ?_) ?_
    · split
      · exact nofun
      · exact happend (s := ".") (hmarks (by decide)) (hdrop 1)
    · split <;> exact hmarks (by decide)
    · split
      · exact happend (s := "0") (hmarks (by decide)) hsize
      · exact hsize

theorem forall_mem_trimmedDigits (n : Nat) : ∀ p ∈ (trimmedDigits n).1, within p := by
  intro p hp
  refine forall_mem_ofNat h n p ?_
  have := List.dropWhile_subset _ (List.mem_reverse.1 hp)
  exact List.mem_reverse.1 this

theorem forall_mem_shown (x : Binary64) : ∀ p ∈ x.shown, within p := by
  cases x with
  | nan => exact forall_mem_of_subset h (by decide)
  | infinite negative => cases negative <;> exact forall_mem_of_subset h (by decide)
  | finite negative significand exponent =>
    have hsign : ∀ p ∈ (if negative then "-" else "" : Text), within p := by
      cases negative <;> exact forall_mem_of_subset h (by decide)
    unfold shown
    dsimp only
    split
    · exact List.forall_mem_append.2 ⟨hsign, forall_mem_of_subset h (by decide)⟩
    · exact List.forall_mem_append.2
        ⟨hsign, forall_mem_notated h (forall_mem_trimmedDigits h _) _⟩

end Binary64

/-- A number is shown in the characters of numbers. -/
theorem Number.forall_mem_shown (n : Number) : ∀ p ∈ n.shown, within p := by
  cases n with
  | int value => exact Text.forall_mem_ofInt h value
  | float value => exact value.forall_mem_shown h

end Within

theorem Text.isNumeric_ofInt (i : Int) : IsNumeric (ofInt i) :=
  forall_mem_ofInt CodePoint.holdsNumbers_isNumeric i

namespace Number

theorem isNumeric_shown (n : Number) : Text.IsNumeric n.shown :=
  n.forall_mem_shown CodePoint.holdsNumbers_isNumeric

/-- A number is shown in plain characters. -/
theorem isPlain_shown (n : Number) : Text.IsPlain n.shown := n.isNumeric_shown.isPlain

end Number

end Playback
