import Playback.Text.Basic

/-!
# What is in joined and in sorted texts, and what a text begins with

* `Text.joined_cons`: texts with separators, from the first one on. `Text.joined_append`: two lists
  of them, one behind the other.
* `Text.mem_joined`: a code point of joined texts is one of the separator or of a part.
* `Text.mem_sortedSet`: sorting neither adds nor drops a text.
* `Text.after?_append`: what follows a beginning that is there.
* `Text.findSome?_after?`: in a table of beginnings that part from each other, the one that is there
  is found.
-/

namespace Playback

namespace Text

/-- Texts with separators, from the first one on. -/
theorem joined_cons (separator text : Text) (texts : List Text) :
    joined separator (text :: texts) = text ++ texts.flatMap (separator ++ ·) := by
  unfold joined
  induction texts generalizing text with
  | nil => simp [List.intercalate]
  | cons next texts ih =>
    rw [List.intercalate_cons_cons, ih, List.flatMap_cons, List.append_assoc, List.append_assoc]

theorem joined_append (separator : Text) {front back : List Text} (hf : front ≠ [])
    (hb : back ≠ []) : joined separator (front ++ back) =
      joined separator front ++ separator ++ joined separator back := by
  obtain ⟨first, front, rfl⟩ := List.exists_cons_of_ne_nil hf
  obtain ⟨next, back, rfl⟩ := List.exists_cons_of_ne_nil hb
  simp only [List.cons_append, joined_cons, List.flatMap_append, List.flatMap_cons,
    List.append_assoc]

theorem mem_joined {p : CodePoint} {separator : Text} {parts : List Text}
    (h : p ∈ joined separator parts) : p ∈ separator ∨ ∃ part ∈ parts, p ∈ part := by
  cases parts with
  | nil => cases h
  | cons part parts =>
    rw [joined_cons, List.mem_append, List.mem_flatMap] at h
    rcases h with h | ⟨other, hother, h⟩
    · exact .inr ⟨part, List.mem_cons_self, h⟩
    · rcases List.mem_append.1 h with h | h
      · exact .inl h
      · exact .inr ⟨other, List.mem_cons_of_mem _ hother, h⟩

theorem mem_insertInto {s t : Text} {texts : List Text} :
    s ∈ insertInto t texts ↔ s = t ∨ s ∈ texts := by
  induction texts with
  | nil => simp [insertInto]
  | cons u rest ih =>
    unfold insertInto
    by_cases hu : t = u
    · rw [if_pos hu, hu]
      simp
    · rw [if_neg hu]
      by_cases hle : le t u
      · rw [if_pos hle, List.mem_cons]
      · rw [if_neg hle, List.mem_cons, ih, List.mem_cons, or_left_comm]

theorem mem_sortedSet {t : Text} {texts : List Text} : t ∈ sortedSet texts ↔ t ∈ texts := by
  unfold sortedSet
  induction texts with
  | nil => simp
  | cons u texts ih => rw [List.foldr_cons, mem_insertInto, ih, List.mem_cons]

/-- What follows a beginning that is there. -/
theorem after?_append (lead t : Text) : (lead ++ t).after? lead = some t := by
  induction lead with
  | nil => cases t <;> rfl
  | cons p lead ih => rw [List.cons_append, after?, if_pos rfl, ih]

/-- A text has no beginning that parts from what it begins with. -/
theorem after?_append_eq_none {lead other : Text} (h : ¬ other <+: lead) (h' : ¬ lead <+: other)
    (t : Text) : (lead ++ t).after? other = none := by
  cases hafter : (lead ++ t).after? other with
  | none => rfl
  | some rest =>
    have hother : other <+: lead ++ t := ⟨rest, (after?_eq_some hafter).symm⟩
    rcases List.prefix_or_prefix_of_prefix hother (List.prefix_append lead t) with hp | hp
    · exact absurd hp h
    · exact absurd hp h'

/-- Where no beginning in a table begins like another one, the text behind the one that is there is
read. -/
theorem findSome?_after? {α β : Type} {table : List (Text × α)} (read : α → Text → Option β)
    (hapart : (table.map Prod.fst).Pairwise fun a b => ¬ a <+: b ∧ ¬ b <+: a) {lead t : Text}
    {a : α} {b : β} (hmem : (lead, a) ∈ table) (h : read a t = some b) :
    (table.findSome? fun entry => ((lead ++ t).after? entry.1).bind (read entry.2)) = some b := by
  obtain ⟨front, back, rfl⟩ := List.append_of_mem hmem
  refine List.findSome?_eq_some_iff.2 ⟨front, (lead, a), back, rfl, ?_, fun entry hentry => ?_⟩
  · rw [after?_append, Option.bind_some, h]
  · rw [List.pairwise_map, List.pairwise_append] at hapart
    obtain ⟨hlead, hother⟩ := hapart.2.2 entry hentry _ List.mem_cons_self
    rw [after?_append_eq_none hlead hother, Option.bind_none]

end Text

end Playback
