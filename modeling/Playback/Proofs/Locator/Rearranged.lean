import Playback.Locator.Target
import Playback.Proofs.Json.Reordered
import Playback.Proofs.Schema.Declared

/-!
# Descriptions in another order of keys

A description is read key by key, so the order of its keys makes no difference, nor does that of its
options or of the descriptions nested in it.

* `Json.Rearranged`: a value whose keys, or those of its options or of its nested descriptions, come
  in another order.
* `Description.AreAlike`: two objects in which every key of a description finds what is read alike.
* `Locator.DescribeAlike`: two values that describe the same target.
  `Description.AreAlike.describeAlike`: objects that are alike do.
* `Json.Rearranged.describeAlike`: so do rearranged values without a key twice.
* `Locator.ofTarget_of_rearranged`: they lead to the same locator.
-/

namespace Playback

/-- The value has its keys in another order, or its options have, or a description nested in it. -/
inductive Json.Rearranged : Json → Json → Prop
  | refl (value : Json) : Rearranged value value
  | trans {value other value' : Json} (h : Rearranged value other) (h' : Rearranged other value') :
    Rearranged value value'
  | keys {members members' : Json.Members} (h : members.Perm members') :
    Rearranged (.object members) (.object members')
  | options {members members' before after : Json.Members} (h : members.Perm members') :
    Rearranged (.object (before ++ (("options" : Text), .object members) :: after))
      (.object (before ++ (("options" : Text), .object members') :: after))
  | next {value value' : Json} {before after : Json.Members} (h : Rearranged value value') :
    Rearranged (.object (before ++ (("next" : Text), value) :: after))
      (.object (before ++ (("next" : Text), value') :: after))

namespace Json.Members

variable {α : Type} {members members' : Members} {name : Text}

/-- A field with one name is read alike in two objects if its member is. -/
theorem optional_of_read_eq {read : Json → Checked α} {absent : α}
    (h : (members'.get? name).map read = (members.get? name).map read) :
    members'.optional { name := name } absent read =
      members.optional { name := name } absent read := by
  have hoptional (members : Members) : members.optional { name := name } absent read =
      (((members.get? name).map read).map (Checked.under (.key name))).getD (.valid absent) := by
    unfold optional
    rw [entry?_eq]
    cases members.get? name <;> rfl
  rw [hoptional, hoptional, h]

theorem required_of_get?_eq {read : Json → Checked α}
    (h : members'.get? name = members.get? name) :
    members'.required { name := name } read = members.required { name := name } read :=
  required_congr (by rw [entry?_eq, entry?_eq, h])

theorem withUnicodeNames_of_perm {checked : Checked α}
    (h : (members'.map Prod.fst).Perm (members.map Prod.fst)) :
    members'.withUnicodeNames checked = members.withUnicodeNames checked := by
  have hall (members : Members) :
      members.all (·.1.isUnicode) = (members.map Prod.fst).all Text.isUnicode := by
    rw [List.all_map]
    rfl
  unfold withUnicodeNames
  rw [hall, hall, h.all_eq]

end Json.Members

namespace Description

open Json.Members

variable {members members' : Json.Members}

/-- How the options of a description are read. -/
abbrev readOptions : Json → Checked DescriptionOptions :=
  Json.readPart "LocatorOptions" DescriptionOptions.read

/-- The links of a nested description; `null` is none. -/
def nested? (value : Json) : Option (List Description) :=
  if value.isNull then some [] else chain? value

theorem nextOf?_eq (members : Json.Members) :
    nextOf? members = ((members.get? "next").map nested?).getD (some []) := by
  unfold get?
  induction members with
  | nil => rfl
  | cons member members ih =>
    obtain ⟨key, value⟩ := member
    rw [nextOf?, List.lookup_cons]
    by_cases hkey : key = ("next" : Text)
    · rw [if_pos hkey, beq_iff_eq.2 hkey.symm]
      rfl
    · rw [if_neg hkey, beq_eq_false_iff_ne.2 (Ne.symm hkey), ih]

/-- Every key of a description finds what is read alike in the two objects. -/
structure AreAlike (members members' : Json.Members) : Prop where
  names : (members'.map Prod.fst).Perm (members.map Prod.fst)
  get : ∀ name, name ≠ ("options" : Text) → name ≠ ("next" : Text) →
    members'.get? name = members.get? name
  options : (members'.get? "options").map readOptions = (members.get? "options").map readOptions
  next : (members'.get? "next").map nested? = (members.get? "next").map nested?

theorem read_options_of_perm (h : members.Perm members') (hkeys : (members.map Prod.fst).Nodup) :
    DescriptionOptions.read members' = DescriptionOptions.read members := by
  have hoptional {α : Type} (name : Text) (absent : α) (read : Json → Checked α) :
      members'.optional { name := name } absent read =
        members.optional { name := name } absent read :=
    optional_of_read_eq (congrArg _ (lookup_of_perm h hkeys))
  unfold DescriptionOptions.read nullable
  rw [withUnicodeNames_of_perm (h.symm.map Prod.fst), hoptional, hoptional, hoptional]

/-- Objects with the same members in any order are alike. -/
theorem areAlike_of_perm (h : members.Perm members') (hkeys : (members.map Prod.fst).Nodup) :
    AreAlike members members' where
  names := h.symm.map Prod.fst
  get _ _ _ := lookup_of_perm h hkeys
  options := congrArg (Option.map _) (lookup_of_perm h hkeys)
  next := congrArg (Option.map _) (lookup_of_perm h hkeys)

section Replaced

variable {before after : Json.Members}

theorem areAlike_of_options (h : members.Perm members') (hkeys : (members.map Prod.fst).Nodup) :
    AreAlike (before ++ (("options" : Text), .object members) :: after)
      (before ++ (("options" : Text), .object members') :: after) where
  names := .of_eq (Json.Members.map_fst_replaced before after _ _ _)
  get _ hname _ := get?_replaced hname
  options := map_get?_replaced fun _ => read_options_of_perm h hkeys
  next := map_get?_replaced fun hname => absurd hname (by decide)

theorem areAlike_of_next {value value' : Json} (h : nested? value' = nested? value) :
    AreAlike (before ++ (("next" : Text), value) :: after)
      (before ++ (("next" : Text), value') :: after) where
  names := .of_eq (Json.Members.map_fst_replaced before after _ _ _)
  get _ _ hname := get?_replaced hname
  options := map_get?_replaced fun hname => absurd hname (by decide)
  next := map_get?_replaced fun _ => h

end Replaced

theorem AreAlike.read_eq (h : AreAlike members members') : read members' = read members := by
  unfold read
  rw [withUnicodeNames_of_perm h.names,
    required_of_get?_eq (h.get "kind" (by decide) (by decide)),
    required_of_get?_eq (h.get "body" (by decide) (by decide)), optional_of_read_eq h.options]

theorem AreAlike.chain?_eq (h : AreAlike members members') :
    chain? (.object members') = chain? (.object members) := by
  rw [chain?, chain?, h.read_eq, nextOf?_eq, nextOf?_eq, h.next]

end Description

namespace Locator

/-- Two values that describe the same target. -/
structure DescribeAlike (value value' : Json) : Prop where
  isNull : value'.isNull = value.isNull
  chain : Description.chain? value' = Description.chain? value
  described : described value' = described value
  body : bodySelector? value' = bodySelector? value

variable {members members' : Json.Members}

/-- Single keys are looked for by their names only. -/
theorem ofSingleKey?_congr
    (h : ∀ key ∈ singleKeys.map Prod.fst, members'.get? key = members.get? key) :
    ofSingleKey? members' = ofSingleKey? members := by
  unfold ofSingleKey?
  revert h
  generalize singleKeys = keys
  intro h
  induction keys with
  | nil => rfl
  | cons entry keys ih =>
    obtain ⟨key, link⟩ := entry
    obtain ⟨hentry, hrest⟩ := List.forall_mem_cons.1 h
    rw [List.findSome?_cons, List.findSome?_cons, ih hrest]
    simp only
    rw [hentry]

theorem ofSingleKey?_of_alike (h : Description.AreAlike members members') :
    ofSingleKey? members' = ofSingleKey? members := by
  have hother : ∀ key ∈ singleKeys.map Prod.fst, key ≠ ("options" : Text) ∧
      key ≠ ("next" : Text) := by decide
  refine ofSingleKey?_congr fun key hkey => ?_
  obtain ⟨hoptions, hnext⟩ := hother key hkey
  exact h.get key hoptions hnext

/-- Objects that are alike describe the same target. -/
theorem describeAlike_object (h : Description.AreAlike members members') :
    DescribeAlike (.object members) (.object members') where
  isNull := rfl
  chain := h.chain?_eq
  described := by
    have hrole : members'.get? "role" = members.get? "role" := h.get _ (by decide) (by decide)
    have hasRole_eq : hasRole members' = hasRole members := by
      unfold hasRole
      rw [hrole]
    have hasKind_eq : hasKindAndBody members' = hasKindAndBody members := by
      unfold hasKindAndBody
      rw [h.get "kind" (by decide) (by decide), h.get "body" (by decide) (by decide)]
    have ofRole_eq : ofRole? members' = ofRole? members := by
      unfold ofRole? Json.Members.nullable
      rw [Json.Members.required_of_get?_eq hrole,
        Json.Members.optional_of_read_eq (congrArg _ (h.get "name" (by decide) (by decide))),
        Json.Members.optional_of_read_eq (congrArg _ (h.get "exact" (by decide) (by decide)))]
    simp only [described]
    rw [hasRole_eq, hasKind_eq, ofRole_eq, h.chain?_eq, ofSingleKey?_of_alike h]
  body := by
    simp only [bodySelector?]
    rw [h.get "body" (by decide) (by decide)]

theorem DescribeAlike.refl (value : Json) : DescribeAlike value value := ⟨rfl, rfl, rfl, rfl⟩

theorem DescribeAlike.trans {value other value' : Json} (h : DescribeAlike value other)
    (h' : DescribeAlike other value') : DescribeAlike value value' where
  isNull := h'.isNull.trans h.isNull
  chain := h'.chain.trans h.chain
  described := h'.described.trans h.described
  body := h'.body.trans h.body

end Locator

namespace Json

/-- Rearranged values without a key twice describe the same target, and have no key twice. -/
theorem Rearranged.describeAlike {value value' : Json} (h : Rearranged value value')
    (hkeys : value.HasDistinctKeys) :
    value'.HasDistinctKeys ∧ Locator.DescribeAlike value value' := by
  have hmiddle {before after : Members} {member : Text × Json} :
      member ∈ before ++ member :: after := List.mem_append_right _ List.mem_cons_self
  induction h with
  | refl value => exact ⟨hkeys, .refl value⟩
  | trans _ _ ih ih' =>
    obtain ⟨hother, hfirst⟩ := ih hkeys
    obtain ⟨hkeys', hsecond⟩ := ih' hother
    exact ⟨hkeys', hfirst.trans hsecond⟩
  | keys hperm =>
    exact ⟨hkeys.of_perm hperm,
      Locator.describeAlike_object (Description.areAlike_of_perm hperm hkeys.nodup)⟩
  | options hperm =>
    have hoptions := hkeys.of_mem_members _ hmiddle
    exact ⟨hkeys.replaced (hoptions.of_perm hperm),
      Locator.describeAlike_object (Description.areAlike_of_options hperm hoptions.nodup)⟩
  | @next value value' _ _ _ ih =>
    obtain ⟨hvalue, halike⟩ := ih (hkeys.of_mem_members _ hmiddle)
    have hnested : Description.nested? value' = Description.nested? value := by
      unfold Description.nested?
      rw [halike.isNull, halike.chain]
    exact ⟨hkeys.replaced hvalue,
      Locator.describeAlike_object (Description.areAlike_of_next hnested)⟩

end Json

namespace Locator

variable {description description' : Json}

/-- Descriptions with the same locator and the same body lead to the same locator; what is logged
may show the description. -/
theorem ofTarget_congr (hnull : description'.isNull = description.isNull)
    (hdescribed : described description' = described description)
    (hbody : bodySelector? description' = bodySelector? description) (selector : Option Text) :
    (ofTarget selector description').map Prod.fst =
      (ofTarget selector description).map Prod.fst := by
  unfold ofTarget
  rw [hnull, hdescribed, hbody]
  split
  · rfl
  · rcases described description with fault | _ | locator
    · rfl
    · cases ofSelector? selector <;> cases bodySelector? description <;> rfl
    · rfl

/-- Rearranged descriptions lead to the same locator. -/
theorem ofTarget_of_rearranged (h : description.Rearranged description')
    (hkeys : description.HasDistinctKeys) (selector : Option Text) :
    (ofTarget selector description').map Prod.fst =
      (ofTarget selector description).map Prod.fst := by
  obtain ⟨-, halike⟩ := h.describeAlike hkeys
  exact ofTarget_congr halike.isNull halike.described halike.body selector

end Locator

end Playback
