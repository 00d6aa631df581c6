import Mathlib.Data.List.Lex
import Mathlib.Data.List.Perm.Basic
import Playback.Proofs.Text.Basic

/-!
# Texts in order

* `Text.Precedes`: the order by the numbers of code points, compared from the front.
  `Text.le_iff`: it is the one in which texts are sorted.
* `Text.IsAscending`: each text of a list comes before all that follow it.
* `Text.isAscending_sortedSet`: the distinct texts of a list are ascending.
* `Text.eq_of_isAscending`: there is only one ascending list of the same texts, so neither the order
  of a list nor repetition changes its sorted texts.
-/

namespace Playback

theorem CodePoint.toNat_injective : Function.Injective CodePoint.toNat := by
  intro p q h
  have hbound (c : Char) : c.toNat < 0xD800 ∨ 0xDFFF < c.toNat := by
    have := c.valid
    rcases this with h | h
    · exact .inl h
    · exact .inr h.1
  cases p with
  | char c =>
    cases q with
    | char d => exact congrArg CodePoint.char (Char.toNat_inj.1 h)
    | surrogate half =>
      have hc := hbound c
      have hd := half.isLt
      simp only [toNat] at h
      omega
  | surrogate half =>
    cases q with
    | char d =>
      have hc := hbound d
      have hd := half.isLt
      simp only [toNat] at h
      omega
    | surrogate half' => exact congrArg surrogate (Fin.ext (Nat.add_left_cancel h))

namespace Text

/-- The numbers of the code points. -/
def codes (t : Text) : List Nat := t.map CodePoint.toNat

/-- The text comes before another one: it has the lower number where they first differ, or ends
there. -/
def Precedes (s t : Text) : Prop := List.Lex (· < ·) (codes s) (codes t)

theorem codes_injective : Function.Injective codes :=
  List.map_injective_iff.2 CodePoint.toNat_injective

section Order

variable {s t u : Text}

theorem Precedes.trans (h : Precedes s t) (h' : Precedes t u) : Precedes s u :=
  @lt_trans (List Nat) _ _ _ _ h h'

theorem Precedes.ne (h : Precedes s t) : s ≠ t := by
  rintro rfl
  exact @lt_irrefl (List Nat) _ _ h

theorem Precedes.asymm (h : Precedes s t) : ¬ Precedes t s := fun h' => (h.trans h').ne rfl

theorem precedes_or_precedes (h : s ≠ t) : Precedes s t ∨ Precedes t s :=
  @lt_or_gt_of_ne (List Nat) _ _ _ fun hcodes => h (codes_injective hcodes)

theorem le_iff : le s t ↔ s = t ∨ Precedes s t := by
  induction s generalizing t with
  | nil => cases t <;> simp [le, Precedes, codes]
  | cons p s ih =>
    cases t with
    | nil => simp [le, Precedes, codes]
    | cons q t =>
      have hcons : Precedes (p :: s) (q :: t) ↔
          p.toNat < q.toNat ∨ p.toNat = q.toNat ∧ Precedes s t := List.cons_lex_cons_iff
      rw [hcons, le, Bool.or_eq_true, Bool.and_eq_true, decide_eq_true_eq, beq_iff_eq, ih,
        List.cons.injEq, CodePoint.toNat_injective.eq_iff]
      tauto

end Order

/-- Each text of the list comes before all that follow it. -/
def IsAscending (texts : List Text) : Prop := texts.Pairwise Precedes

theorem isAscending_insertInto {t : Text} {texts : List Text} (h : IsAscending texts) :
    IsAscending (insertInto t texts) := by
  induction texts with
  | nil => exact List.pairwise_singleton _ t
  | cons u rest ih =>
    obtain ⟨hfirst, hrest⟩ := List.pairwise_cons.1 h
    unfold insertInto
    by_cases heq : t = u
    · rwa [if_pos heq]
    · rw [if_neg heq]
      by_cases hle : le t u
      · have hbefore : Precedes t u := (le_iff.1 hle).resolve_left heq
        rw [if_pos hle]
        exact List.pairwise_cons.2 ⟨List.forall_mem_cons.2
          ⟨hbefore, fun other hother => hbefore.trans (hfirst other hother)⟩, h⟩
      · have hbehind : Precedes u t :=
          (precedes_or_precedes heq).resolve_left fun hbefore => hle (le_iff.2 (.inr hbefore))
        rw [if_neg hle]
        refine List.pairwise_cons.2 ⟨fun other hother => ?_, ih hrest⟩
        rcases mem_insertInto.1 hother with rfl | hother
        · exact hbehind
        · exact hfirst other hother

theorem isAscending_sortedSet (texts : List Text) : IsAscending (sortedSet texts) := by
  unfold sortedSet
  induction texts with
  | nil => exact .nil
  | cons t texts ih => exact isAscending_insertInto ih

theorem IsAscending.nodup {texts : List Text} (h : IsAscending texts) : texts.Nodup :=
  h.imp Precedes.ne

/-- Ascending lists of the same texts are equal. -/
theorem eq_of_isAscending {texts others : List Text} (h : IsAscending texts)
    (h' : IsAscending others) (hmem : ∀ t, t ∈ texts ↔ t ∈ others) : texts = others := by
  have hperm : texts.Perm others := (List.perm_ext_iff_of_nodup h.nodup h'.nodup).2 hmem
  exact hperm.eq_of_pairwise (fun s t _ _ hst hts => absurd hts hst.asymm) h h'

end Text

end Playback
