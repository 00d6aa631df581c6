import Playback.Proofs.Code.Delimited
import Playback.Proofs.Json.Sorted
import Playback.Proofs.Json.Written

/-!
# Excerpts of values

An excerpt is the beginning of a value's text, where the keys of objects are in order.

* `joined_append_inj`: parts with commas between them and a bracket behind them are read in only one
  way, if each part is.
* `Json.HasNoFloats`: no number of the value is a floating-point number.
  `Json.encode_append_inj`: the text of such a value shows the value, and where it ends.
* `Json.noControl_excerpt`: an excerpt has no control characters.
* `Json.excerpt_canonical`: what the excerpt of a value is, and which values have the same one.
-/

namespace Playback

/-! ## Parts between brackets -/

section Parts

variable {α : Type} {print : α → Text} {close : CodePoint} {parts others : List α}
  {rest rest' : Text}

/-- Parts behind a first one, and the bracket behind all of them. -/
def partsBehind (print : α → Text) (close : CodePoint) (parts : List α) (rest : Text) : Text :=
  parts.flatMap (fun part => (", " : Text) ++ print part) ++ close :: rest

theorem partsBehind_cons (part : α) (parts : List α) (rest : Text) :
    partsBehind print close (part :: parts) rest =
      .char ',' :: .char ' ' :: (print part ++ partsBehind print close parts rest) := by
  simp only [partsBehind, List.flatMap_cons, List.append_assoc]
  rfl

theorem endsNumeric_partsBehind (hclose : close.isNumeric = false) :
    (partsBehind print close parts rest).EndsNumeric := by
  cases parts with
  | nil => exact Text.endsNumeric_cons hclose rest
  | cons part parts =>
    rw [partsBehind_cons]
    exact Text.endsNumeric_cons (by decide) _

/-- Each of the parts shows what it is and where it ends. -/
def ShowParts (print : α → Text) (parts others : List α) : Prop :=
  ∀ part ∈ parts, ∀ other ∈ others, ∀ rest rest' : Text, rest.EndsNumeric → rest'.EndsNumeric →
    print part ++ rest = print other ++ rest' → part = other ∧ rest = rest'

theorem partsBehind_append_inj (hclose : close.isNumeric = false) (hcomma : close ≠ .char ',')
    (hparts : ShowParts print parts others)
    (h : partsBehind print close parts rest = partsBehind print close others rest') :
    parts = others ∧ rest = rest' := by
  induction parts generalizing others with
  | nil =>
    cases others with
    | nil => exact ⟨rfl, (List.cons.inj h).2⟩
    | cons other others =>
      rw [partsBehind_cons] at h
      exact absurd (List.cons.inj h).1 hcomma
  | cons part parts ih =>
    rw [partsBehind_cons] at h
    cases others with
    | nil => exact absurd (List.cons.inj h).1.symm hcomma
    | cons other others =>
      rw [partsBehind_cons] at h
      obtain ⟨rfl, hrest⟩ := hparts part List.mem_cons_self other List.mem_cons_self _ _
        (endsNumeric_partsBehind hclose) (endsNumeric_partsBehind hclose)
        (List.cons.inj (List.cons.inj h).2).2
      obtain ⟨rfl, hend⟩ := ih (fun part hpart other hother =>
        hparts part (List.mem_cons_of_mem _ hpart) other (List.mem_cons_of_mem _ hother)) hrest
      exact ⟨rfl, hend⟩

/-- Parts with commas between them show what they are, if none begins with the bracket that stands
behind all of them. -/
theorem joined_append_inj (hclose : close.isNumeric = false) (hcomma : close ≠ .char ',')
    (hlead : ∀ part ∈ parts ++ others, ∀ rest rest' : Text, print part ++ rest ≠ close :: rest')
    (hparts : ShowParts print parts others)
    (h : Text.joined ", " (parts.map print) ++ close :: rest =
      Text.joined ", " (others.map print) ++ close :: rest') : parts = others ∧ rest = rest' := by
  have hjoined (part : α) (parts : List α) (rest : Text) :
      Text.joined ", " ((part :: parts).map print) ++ close :: rest =
        print part ++ partsBehind print close parts rest := by
    rw [List.map_cons, Text.joined_cons, List.append_assoc, List.flatMap_map]
    rfl
  cases parts with
  | nil =>
    cases others with
    | nil => exact ⟨rfl, (List.cons.inj h).2⟩
    | cons other others =>
      rw [hjoined] at h
      exact absurd h.symm (hlead other List.mem_cons_self _ _)
  | cons part parts =>
    rw [hjoined] at h
    cases others with
    | nil => exact absurd h (hlead part List.mem_cons_self _ _)
    | cons other others =>
      -- with a comma in front of each side these are parts behind a first one
      rw [hjoined] at h
      refine partsBehind_append_inj hclose hcomma hparts ?_
      rw [partsBehind_cons, partsBehind_cons, h]

end Parts

theorem Number.isPlain_encode (n : Number) : Text.IsPlain n.encode := by
  have hword : ∀ word ∈ (["NaN", "Infinity", "-Infinity"] : List Text), word.IsNumeric := by decide
  cases n with
  | int value => exact (Text.isNumeric_ofInt value).isPlain
  | float value =>
    cases value with
    | nan => exact (hword "NaN" (by decide)).isPlain
    | infinite negative =>
      cases negative with
      | false => exact (hword "Infinity" (by decide)).isPlain
      | true => exact (hword "-Infinity" (by decide)).isPlain
    | finite negative significand exponent =>
      exact Number.isPlain_shown (.float (.finite negative significand exponent))

namespace Json

/-! ## Values without floating-point numbers -/

/-- No number of the value is a floating-point number. -/
inductive HasNoFloats : Json → Prop
  | null : HasNoFloats .null
  | bool (value : Bool) : HasNoFloats (.bool value)
  | int (value : Int) : HasNoFloats (.number (.int value))
  | text (value : Text) : HasNoFloats (.text value)
  | list {items : List Json} (h : ∀ item ∈ items, HasNoFloats item) : HasNoFloats (.list items)
  | object {members : List (Text × Json)} (h : ∀ member ∈ members, HasNoFloats member.2) :
    HasNoFloats (.object members)

theorem HasNoFloats.of_mem_items {items : List Json} (h : (Json.list items).HasNoFloats) :
    ∀ item ∈ items, item.HasNoFloats := by
  cases h with
  | list h => exact h

theorem HasNoFloats.of_mem_members {members : Members} (h : (Json.object members).HasNoFloats) :
    ∀ member ∈ members, member.2.HasNoFloats := by
  cases h with
  | object h => exact h

theorem Reordered.hasNoFloats {value other : Json} (h : Reordered value other)
    (hv : value.HasNoFloats) : other.HasNoFloats := by
  induction h with
  | refl => exact hv
  | trans _ _ ih ih' => exact ih' (ih hv)
  | keys hperm =>
    exact .object fun member hmember => hv.of_mem_members member (hperm.mem_iff.2 hmember)
  | item front back _ ih =>
    have hall := hv.of_mem_items
    refine .list ?_
    simp only [List.forall_mem_append, List.forall_mem_cons] at hall ⊢
    exact ⟨hall.1, ih hall.2.1, hall.2.2⟩
  | member front back name _ ih =>
    have hall := hv.of_mem_members
    refine .object ?_
    simp only [List.forall_mem_append, List.forall_mem_cons] at hall ⊢
    exact ⟨hall.1, ih hall.2.1, hall.2.2⟩

/-- The kind of a value, by what its text begins with. -/
def kindOfLead (lead : CodePoint) : Text :=
  if lead.isAsciiDigit || lead == .char '-' then "int"
  else
    match lead with
    | .char 'n' => "NoneType"
    | .char 't' | .char 'f' => "bool"
    | .char '"' => "str"
    | .char '[' => "list"
    | .char '\x7b' => "dict"
    | _ => []

theorem exists_encode_eq_cons {value : Json} (h : value.HasNoFloats) :
    ∃ lead rest, value.encode = lead :: rest ∧ kindOfLead lead = value.kind := by
  cases h with
  | null => exact ⟨_, _, rfl, rfl⟩
  | bool value => cases value <;> exact ⟨_, _, rfl, rfl⟩
  | int value =>
    cases value with
    | ofNat n =>
      obtain ⟨lead, rest, hdigits, hlead⟩ := exists_digit_ofNat n
      exact ⟨lead, rest, hdigits, if_pos (by simp [hlead])⟩
    | negSucc n => exact ⟨_, _, rfl, rfl⟩
  | text | list | object => exact ⟨_, _, rfl, rfl⟩

/-- A member of an object in its text. -/
def encodeMember (member : Text × Json) : Text :=
  Quoted.encode member.1 ++ ": " ++ member.2.encode

theorem encode_list (items : List Json) :
    encode (.list items) = "[" ++ Text.joined ", " (items.map encode) ++ "]" := by
  have hitems : encodeItems items = items.map encode := by
    induction items with
    | nil => rfl
    | cons item items ih => rw [encodeItems, List.map_cons, ih]
  rw [encode, hitems]

theorem encode_object (members : Members) :
    encode (.object members) = "\x7b" ++ Text.joined ", " (members.map encodeMember) ++ "\x7d" := by
  have hmembers : encodeMembers members = members.map encodeMember := by
    induction members with
    | nil => rfl
    | cons member members ih =>
      rw [encodeMembers, List.map_cons, ih]
      rfl
  rw [encode, hmembers]

section Texts

variable {value other : Json} {rest rest' : Text}

/-- Texts of two kinds begin in two ways. -/
theorem kind_eq_of_encode_append (hv : value.HasNoFloats) (ho : other.HasNoFloats)
    (h : value.encode ++ rest = other.encode ++ rest') : value.kind = other.kind := by
  obtain ⟨lead, behind, hencode, hkind⟩ := exists_encode_eq_cons hv
  obtain ⟨lead', behind', hencode', hkind'⟩ := exists_encode_eq_cons ho
  rw [hencode, hencode'] at h
  rw [← hkind, ← hkind', (List.cons.inj h).1]

/-- No text of a value begins with something else, such as a closing bracket. -/
theorem encode_append_ne {p : CodePoint} (hv : value.HasNoFloats) (hp : kindOfLead p = []) :
    value.encode ++ rest ≠ p :: rest' := by
  intro h
  obtain ⟨lead, behind, hencode, hkind⟩ := exists_encode_eq_cons hv
  rw [hencode] at h
  rw [(List.cons.inj h).1, hp] at hkind
  cases hv <;> cases hkind

/-- The text of a value shows the value, and where it ends. -/
theorem encode_append_inj (hv : value.HasNoFloats) (ho : other.HasNoFloats)
    (hrest : rest.EndsNumeric) (hrest' : rest'.EndsNumeric)
    (h : value.encode ++ rest = other.encode ++ rest') : value = other ∧ rest = rest' := by
  -- the texts begin alike, so in each case both values are of one kind
  induction hv generalizing other rest rest' with
  | null =>
    have hkind := kind_eq_of_encode_append .null ho h
    cases ho with
    | null => exact ⟨rfl, List.append_cancel_left h⟩
    | bool | int | text | list | object => cases hkind
  | bool value =>
    have hkind := kind_eq_of_encode_append (.bool value) ho h
    cases ho with
    | bool value' => cases value <;> cases value' <;> cases h <;> exact ⟨rfl, rfl⟩
    | null | int | text | list | object => cases hkind
  | int value =>
    have hkind := kind_eq_of_encode_append (.int value) ho h
    cases ho with
    | int value' =>
      obtain ⟨hvalue, hend⟩ :=
        (Text.isNumeric_ofInt value).append_inj (Text.isNumeric_ofInt value') hrest hrest' h
      exact ⟨by rw [Text.ofInt_inj hvalue], hend⟩
    | null | bool | text | list | object => cases hkind
  | text value =>
    have hkind := kind_eq_of_encode_append (.text value) ho h
    cases ho with
    | text value' =>
      obtain ⟨rfl, hend⟩ := Quoted.encode_append_inj h
      exact ⟨rfl, hend⟩
    | null | bool | int | list | object => cases hkind
  | @list items hitems ih =>
    have hkind := kind_eq_of_encode_append (.list hitems) ho h
    cases ho with
    | @list others hothers =>
      -- no item begins with the bracket that closes the list
      rw [encode_list, encode_list] at h
      simp only [List.append_assoc] at h
      have hlead : ∀ item ∈ items ++ others, ∀ rest rest' : Text,
          item.encode ++ rest ≠ .char ']' :: rest' := fun item hitem _ _ =>
        encode_append_ne (List.forall_mem_append.2 ⟨hitems, hothers⟩ item hitem) rfl
      have hparts : ShowParts encode items others := fun item hitem other hother _ _ =>
        ih item hitem (hothers other hother)
      obtain ⟨rfl, hend⟩ := joined_append_inj (by decide) (by decide) hlead hparts
        (List.cons.inj h).2
      exact ⟨rfl, hend⟩
    | null | bool | int | text | object => cases hkind
  | @object members hmembers ih =>
    have hkind := kind_eq_of_encode_append (.object hmembers) ho h
    cases ho with
    | @object others hothers =>
      rw [encode_object, encode_object] at h
      simp only [List.append_assoc] at h
      have hlead : ∀ member ∈ members ++ others, ∀ rest rest' : Text,
          encodeMember member ++ rest ≠ .char '\x7d' :: rest' := fun _ _ _ _ hmember =>
        absurd (List.cons.inj hmember).1 (by decide)
      -- a member shows its key, which is quoted, and then its value
      have hparts : ShowParts encodeMember members others := by
        intro member hmember other hother rest rest' hr hr' h
        simp only [encodeMember, List.append_assoc] at h
        obtain ⟨hkey, hvalues⟩ := Quoted.encode_append_inj h
        obtain ⟨hvalue, hend⟩ := ih member hmember (hothers other hother) hr hr'
          (List.append_cancel_left hvalues)
        exact ⟨Prod.ext hkey hvalue, hend⟩
      obtain ⟨rfl, hend⟩ := joined_append_inj (by decide) (by decide) hlead hparts
        (List.cons.inj h).2
      exact ⟨rfl, hend⟩
    | null | bool | int | text | list => cases hkind

theorem encode_inj (hv : value.HasNoFloats) (ho : other.HasNoFloats)
    (h : value.encode = other.encode) : value = other :=
  (encode_append_inj hv ho Text.endsNumeric_nil Text.endsNumeric_nil (congrArg (· ++ []) h)).1

end Texts

/-! ## Excerpts -/

theorem noControl_spelled (token : Token) : ∀ p ∈ token.spelled " ", 0x20 ≤ p.toNat := by
  have hword : ∀ word ∈
      (["null", "true", "false", "[", "]", "\x7b", "\x7d", ", ", ": "] : List Text),
      ∀ p ∈ word, 0x20 ≤ p.toNat := by decide
  cases token with
  | openList => exact hword "[" (by decide)
  | closeList => exact hword "]" (by decide)
  | openObject => exact hword "\x7b" (by decide)
  | closeObject => exact hword "\x7d" (by decide)
  | comma => exact hword ", " (by decide)
  | colon => exact hword ": " (by decide)
  | null => exact hword "null" (by decide)
  | bool value =>
    cases value with
    | false => exact hword "false" (by decide)
    | true => exact hword "true" (by decide)
  | number value => exact fun p hp => CodePoint.space_le_of_isPlain (value.isPlain_encode p hp)
  | text value => exact (Text.isCode_encode value).noControl
  | badText | hugeNumber | stray => exact nofun

theorem noControl_encode (value : Json) : ∀ p ∈ value.encode, 0x20 ≤ p.toNat := by
  intro p hp
  rw [← written_eq_encode] at hp
  obtain ⟨token, -, hp⟩ := List.mem_flatMap.1 hp
  exact noControl_spelled token p hp

/-- Control characters are escaped in the text of a value, so no excerpt has any. -/
theorem noControl_excerpt (limit : Int) (value : Json) :
    ∀ p ∈ value.excerpt limit, 0x20 ≤ p.toNat := by
  have hvalue := noControl_encode value.sorted
  have hellipsis : ∀ p ∈ ("…" : Text), 0x20 ≤ p.toNat := by decide
  unfold excerpt
  dsimp only
  split
  · exact hvalue
  · exact List.forall_mem_append.2 ⟨fun p hp => hvalue p (List.mem_of_mem_take hp), hellipsis⟩

theorem excerpt_of_le {value : Json} {limit : Nat} (h : value.sorted.encode.length ≤ limit) :
    excerpt limit value = value.sorted.encode := if_pos (Int.ofNat_le.2 h)

theorem excerpt_of_lt {value : Json} {limit : Nat} (h : limit < value.sorted.encode.length) :
    excerpt limit value = value.sorted.encode.take limit ++ "…" := by
  have hlong : ¬ (value.sorted.encode.length : Int) ≤ limit := by omega
  unfold excerpt
  dsimp only
  rw [if_neg hlong, if_pos (Int.natCast_nonneg limit), Int.toNat_natCast]

/-- The excerpt of a value is the text of the value with its keys in order, or the beginning of it
and an ellipsis. It does not depend on the order of keys, and where the whole text is shown it
depends on all else. -/
theorem excerpt_canonical {value other : Json} (hv : value.HasDistinctKeys)
    (ho : other.HasDistinctKeys) (limit : Nat) :
    (Reordered value other → excerpt limit other = excerpt limit value) ∧
    (Reordered value value.sorted ∧ value.sorted.HasSortedKeys) ∧
    (value.sorted.encode.length ≤ limit → excerpt limit value = value.sorted.encode) ∧
    (limit < value.sorted.encode.length →
      excerpt limit value = value.sorted.encode.take limit ++ "…") ∧
    (excerpt limit value).length ≤ limit + 1 ∧
    (value.HasNoFloats → other.HasNoFloats → value.sorted.encode.length ≤ limit →
      other.sorted.encode.length ≤ limit →
      (excerpt limit value = excerpt limit other ↔ Reordered value other)) := by
  have hsame (h : Reordered value other) : excerpt limit other = excerpt limit value := by
    unfold excerpt
    rw [sorted_of_reordered h hv]
  refine ⟨hsame, ⟨reordered_sorted hv, hasSortedKeys_sorted hv⟩, excerpt_of_le, excerpt_of_lt, ?_,
    fun hfloats hfloats' hfits hfits' => ⟨fun h => ?_, fun h => (hsame h).symm⟩⟩
  · by_cases hfits : value.sorted.encode.length ≤ limit
    · rw [excerpt_of_le hfits]
      omega
    · rw [excerpt_of_lt (by omega), List.length_append, List.length_take]
      show min _ _ + 1 ≤ _
      omega
  · rw [excerpt_of_le hfits, excerpt_of_le hfits'] at h
    exact (sorted_eq_iff_reordered hv ho).1 (encode_inj ((reordered_sorted hv).hasNoFloats hfloats)
      ((reordered_sorted ho).hasNoFloats hfloats') h)

/-- An object with an object in it, the keys of both out of order. -/
def unsortedValue : Json :=
  .object [("b", .object [("y", .number (.int 1)), ("x", .null)]), ("a", .text "z")]

/-- The same members in order. -/
def sortedValue : Json :=
  .object [("a", .text "z"), ("b", .object [("x", .null), ("y", .number (.int 1))])]

/-- The excerpts of both show that they differ in the order of members only. -/
theorem excerpt_canonical_unsorted :
    excerpt 36 unsortedValue = "\x7b\"a\": \"z\", \"b\": \x7b\"x\": null, \"y\": 1\x7d\x7d" ∧
    excerpt 35 unsortedValue = "\x7b\"a\": \"z\", \"b\": \x7b\"x\": null, \"y\": 1\x7d…" ∧
    Reordered unsortedValue sortedValue := by
  have hpair {k k' : Text} {v v' : Json} (hne : k ≠ k') (hv : v.HasDistinctKeys)
      (hv' : v'.HasDistinctKeys) : (object [(k, v), (k', v')]).HasDistinctKeys :=
    .object (by simpa using hne) (by simpa using ⟨hv, hv'⟩)
  have hfree {k k' : Text} {v v' : Json} (hv : v.HasNoFloats) (hv' : v'.HasNoFloats) :
      (object [(k, v), (k', v')]).HasNoFloats :=
    .object (by simpa using ⟨hv, hv'⟩)
  have hkeys : unsortedValue.HasDistinctKeys :=
    hpair (by decide) (hpair (by decide) (.number _) .null) (.text _)
  have hkeys' : sortedValue.HasDistinctKeys :=
    hpair (by decide) (.text _) (hpair (by decide) .null (.number _))
  obtain ⟨-, -, hwhole, -, -, hsame⟩ := excerpt_canonical hkeys hkeys' 36
  obtain ⟨-, -, -, hcut, -, -⟩ := excerpt_canonical hkeys hkeys' 35
  refine ⟨hwhole (by decide), hcut (by decide), (hsame (hfree (hfree (.int _) .null) (.text _))
    (hfree (.text _) (hfree .null (.int _))) ?_ ?_).1 ?_⟩ <;> decide

end Json

end Playback
