import Playback.Text.ControlSequence
import Playback.Text.Surrogate

/-!
# What is left without control sequences

* `Text.IsControlSequence`: the text is one control sequence. `Text.Strips`: taking the control
  sequences out of a text from its front leaves another one.
* `Text.strips_withoutControlSequences`: this is what is left of a text.
* `Text.withoutControlSequences_sublist`, `Text.isUnicode_withoutControlSequences`: nothing is added
  by it, and no surrogate is lost.
* `Text.withoutControlSequences_append_cons`: no control sequence goes on over a code point that
  cannot stand in one.
* `Text.IsPrintedWhole`: the text has bytes and no control sequences.
-/

namespace Playback

namespace Text

variable {s t u : Text} {p : CodePoint}

/-! ## One control sequence -/

/-- The text is one control sequence. -/
def IsControlSequence (t : Text) : Prop :=
  ∃ parameters letter, t = .char '\x1b' :: .char '[' :: (parameters ++ [letter]) ∧
    (∀ p ∈ parameters, p.isControlParameter) ∧ letter.isAsciiLetter

theorem isAsciiLetter_of_isControlParameter (h : p.isControlParameter) :
    p.isAsciiLetter = false := by
  simp only [CodePoint.isControlParameter, Bool.or_eq_true, beq_iff_eq] at h
  rcases h with (h | rfl) | rfl
  · cases p with
    | surrogate half => rfl
    | char c =>
      simp only [CodePoint.isAsciiDigit, CodePoint.isAsciiLetter, Bool.and_eq_true,
        decide_eq_true_eq, Bool.or_eq_false_iff, Bool.and_eq_false_iff, decide_eq_false_iff_not,
        Char.le_def, UInt32.le_iff_toNat_le] at h ⊢
      have hnine : c.val.toNat ≤ 57 := h.2
      exact ⟨.inl (by show ¬ 97 ≤ _; omega), .inl (by show ¬ 65 ≤ _; omega)⟩
  · rfl
  · rfl

/-- A text that a control sequence is found in begins with it. -/
theorem exists_append_of_controlSequenceLength {length : Nat}
    (h : t.controlSequenceLength = length + 1) :
    ∃ sequence rest, t = sequence ++ rest ∧ sequence.length = length + 1 ∧
      IsControlSequence sequence := by
  unfold controlSequenceLength at h
  split at h
  · next rest =>
    split at h
    · cases h
    · next letter behind hbehind =>
      split at h
      · next hletter =>
        have hrest := List.takeWhile_append_dropWhile (p := CodePoint.isControlParameter)
          (l := rest)
        rw [hbehind] at hrest
        refine ⟨.char '\x1b' :: .char '[' ::
          (rest.takeWhile CodePoint.isControlParameter ++ [letter]), behind, ?_, ?_, _, _, rfl,
          List.all_eq_true.1 List.all_takeWhile, hletter⟩
        · rw [List.cons_append, List.cons_append, List.append_assoc, List.singleton_append, hrest]
        · simp only [List.length_cons, List.length_append, List.length_nil]
          omega
      · cases h
  · cases h

/-- A control sequence is found at the beginning of a text. -/
theorem controlSequenceLength_append (h : IsControlSequence s) (t : Text) :
    (s ++ t).controlSequenceLength = s.length := by
  obtain ⟨parameters, letter, rfl, hparameters, hletter⟩ := h
  have hstop : letter.isControlParameter = false := by
    refine Bool.eq_false_iff.2 fun hparameter => ?_
    rw [isAsciiLetter_of_isControlParameter hparameter] at hletter
    cases hletter
  have htake : (parameters ++ letter :: t).takeWhile CodePoint.isControlParameter = parameters := by
    rw [List.takeWhile_append_of_pos hparameters, List.takeWhile_cons_of_neg (by simp [hstop]),
      List.append_nil]
  have hdrop :
      (parameters ++ letter :: t).dropWhile CodePoint.isControlParameter = letter :: t := by
    rw [List.dropWhile_append_of_pos hparameters, List.dropWhile_cons_of_neg (by simp [hstop])]
  rw [List.cons_append, List.cons_append, List.append_assoc, List.singleton_append,
    controlSequenceLength, hdrop]
  simp only [htake, hletter, if_true, List.length_cons, List.length_append, List.length_nil]

theorem controlSequenceLength_of_ne (h : p ≠ .char '\x1b') (t : Text) :
    controlSequenceLength (p :: t) = 0 := by
  unfold controlSequenceLength
  split
  · next hp => exact absurd (List.cons_eq_cons.1 hp).1 h
  · rfl

/-! ## Taking control sequences out -/

theorem withoutControlSequencesFrom_append (s t : Text) :
    (s ++ t).withoutControlSequencesFrom s.length = t.withoutControlSequences := by
  induction s with
  | nil => rfl
  | cons p s ih => exact ih

theorem withoutControlSequences_append (h : IsControlSequence s) (t : Text) :
    (s ++ t).withoutControlSequences = t.withoutControlSequences := by
  have hlength := controlSequenceLength_append h t
  obtain ⟨parameters, letter, rfl, -⟩ := h
  rw [List.cons_append, List.length_cons] at hlength
  rw [withoutControlSequences, List.cons_append]
  simp only [withoutControlSequencesFrom, hlength]
  exact withoutControlSequencesFrom_append (.char '[' :: (parameters ++ [letter])) t

theorem withoutControlSequences_cons (h : controlSequenceLength (p :: t) = 0) :
    withoutControlSequences (p :: t) = p :: t.withoutControlSequences := by
  simp only [withoutControlSequences, withoutControlSequencesFrom, h]

/-- What taking the control sequences out of a text from its front leaves. -/
inductive Strips : Text → Text → Prop
  | nil : Strips [] []
  | sequence {s t u : Text} (hs : IsControlSequence s) (h : Strips t u) : Strips (s ++ t) u
  | keep {p : CodePoint} {t u : Text} (hp : controlSequenceLength (p :: t) = 0) (h : Strips t u) :
    Strips (p :: t) (p :: u)

theorem strips_withoutControlSequences (t : Text) : Strips t t.withoutControlSequences := by
  cases t with
  | nil => exact .nil
  | cons p t =>
    cases hlength : controlSequenceLength (p :: t) with
    | zero =>
      rw [withoutControlSequences_cons hlength]
      exact .keep hlength (strips_withoutControlSequences t)
    | succ length =>
      obtain ⟨sequence, rest, ht, hsize, hsequence⟩ :=
        exists_append_of_controlSequenceLength hlength
      have hshorter : rest.length < (p :: t).length := by
        rw [ht, List.length_append]
        omega
      rw [ht, withoutControlSequences_append hsequence]
      exact .sequence hsequence (strips_withoutControlSequences rest)
termination_by t.length
decreasing_by all_goals simp_all

theorem Strips.sublist (h : Strips t u) : u.Sublist t := by
  induction h with
  | nil => exact .slnil
  | sequence hs _ ih => exact ih.trans (List.sublist_append_right _ _)
  | keep _ _ ih => exact ih.cons_cons _

theorem withoutControlSequences_sublist (t : Text) : t.withoutControlSequences.Sublist t :=
  t.strips_withoutControlSequences.sublist

theorem IsControlSequence.isUnicode (h : IsControlSequence t) : t.isUnicode := by
  obtain ⟨parameters, letter, rfl, hparameters, hletter⟩ := h
  have hchar {p : CodePoint} (hp : p.isControlParameter ∨ p.isAsciiLetter) :
      (!p.isSurrogate) = true := by
    cases p with
    | char c => rfl
    | surrogate half => rcases hp with hp | hp <;> cases hp
  rw [Text.isUnicode, List.all_eq_true]
  simp only [List.forall_mem_cons, List.forall_mem_append]
  exact ⟨rfl, rfl, fun p hp => hchar (.inl (hparameters p hp)), hchar (.inr hletter), nofun⟩

theorem isUnicode_append (s t : Text) : (s ++ t).isUnicode = (s.isUnicode && t.isUnicode) :=
  List.all_append

theorem Strips.isUnicode (h : Strips t u) : u.isUnicode = t.isUnicode := by
  induction h with
  | nil => rfl
  | sequence hs _ ih => rw [isUnicode_append, hs.isUnicode, Bool.true_and, ih]
  | @keep p t u _ _ ih =>
    rw [← List.singleton_append, ← List.singleton_append (l := t), isUnicode_append,
      isUnicode_append, ih]

/-- No surrogate stands in a control sequence, so none is lost with them. -/
theorem isUnicode_withoutControlSequences (t : Text) :
    t.withoutControlSequences.isUnicode = t.isUnicode :=
  t.strips_withoutControlSequences.isUnicode

/-! ## Texts in parts -/

/-- A text without escape characters is left as it is, whatever stands behind it. -/
theorem withoutControlSequences_append_of_notMem (h : .char '\x1b' ∉ s) (t : Text) :
    (s ++ t).withoutControlSequences = s ++ t.withoutControlSequences := by
  induction s with
  | nil => rfl
  | cons p s ih =>
    rw [List.mem_cons, not_or] at h
    have hlength := controlSequenceLength_of_ne (Ne.symm h.1) (s ++ t)
    rw [List.cons_append, withoutControlSequences_cons hlength, ih h.2, List.cons_append]

/-- A text without escape characters has no control sequences. -/
theorem withoutControlSequences_eq (h : .char '\x1b' ∉ t) : t.withoutControlSequences = t := by
  have hnil : withoutControlSequences [] = [] := rfl
  have happend := withoutControlSequences_append_of_notMem h []
  rwa [hnil, List.append_nil] at happend

theorem Strips.append_cons (h : Strips s u) (hbracket : p ≠ .char '[')
    (hparameter : p.isControlParameter = false) (hletter : p.isAsciiLetter = false) (t : Text) :
    (s ++ p :: t).withoutControlSequences = u ++ withoutControlSequences (p :: t) := by
  induction h with
  | nil => rfl
  | sequence hs _ ih => rw [List.append_assoc, withoutControlSequences_append hs, ih]
  | @keep q s u hq _ ih =>
    have hnone : controlSequenceLength (q :: s ++ p :: t) = 0 := by
      cases hlength : controlSequenceLength (q :: s ++ p :: t) with
      | zero => rfl
      | succ length =>
        obtain ⟨sequence, rest, heq, -, hsequence⟩ := exists_append_of_controlSequenceLength hlength
        have hwithin (behind : Text) : q :: s ≠ sequence ++ behind := by
          intro hfront
          rw [hfront, controlSequenceLength_append hsequence] at hq
          obtain ⟨parameters, letter, rfl, -⟩ := hsequence
          cases hq
        rcases List.append_eq_append_iff.1 heq with ⟨_ | ⟨p', behind⟩, hfront, hback⟩ |
          ⟨behind, hfront, -⟩
        · exact absurd hfront.symm (by simpa using hwithin [])
        · -- the sequence goes on over the code point, which cannot stand in it
          cases (List.cons.inj hback).1
          obtain ⟨parameters, letter, rfl, hparameters, hl⟩ := hsequence
          have hmem : p ∈ .char '[' :: (parameters ++ [letter]) := by
            rw [(List.cons.inj hfront).2]
            exact List.mem_append_right s List.mem_cons_self
          simp only [List.mem_cons, List.mem_append, List.not_mem_nil, or_false] at hmem
          rcases hmem with rfl | hmem | rfl
          · exact absurd rfl hbracket
          · exact absurd (hparameters p hmem) (by simp [hparameter])
          · exact absurd hl (by simp [hletter])
        · exact absurd hfront (hwithin behind)
    rw [List.cons_append] at hnone
    rw [List.cons_append, withoutControlSequences_cons hnone, ih, List.cons_append]

/-- No control sequence goes on over a code point that cannot stand in one. -/
theorem withoutControlSequences_append_cons (hbracket : p ≠ .char '[')
    (hparameter : p.isControlParameter = false) (hletter : p.isAsciiLetter = false) (s t : Text) :
    (s ++ p :: t).withoutControlSequences =
      s.withoutControlSequences ++ withoutControlSequences (p :: t) :=
  s.strips_withoutControlSequences.append_cons hbracket hparameter hletter t

/-! ## Texts that are printed whole -/

/-- The text is printed as it is: it has bytes and no control sequences. -/
structure IsPrintedWhole (t : Text) : Prop where
  isUnicode : t.isUnicode
  withoutControlSequences_eq : t.withoutControlSequences = t

theorem isPrintedWhole_iff_of_notMem (h : .char '\x1b' ∉ t) :
    t.IsPrintedWhole ↔ t.isUnicode :=
  ⟨IsPrintedWhole.isUnicode, fun hunicode => ⟨hunicode, withoutControlSequences_eq h⟩⟩

end Text

end Playback
