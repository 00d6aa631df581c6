import Playback.Proofs.Json.DistinctKeys

/-!
# Objects with their members in another order

* `Json.Reordered`: a value in which members of objects, at any depth, are in another order.
* `Json.Reordered.hasDistinctKeys`: no key comes twice then either.
* `Json.Reordered.items`, `Json.Reordered.members`: all items of a list and all members of an object
  reordered at once. `Json.Reordered.symm`: the order can be changed back.
* `Json.Ignores`: a function of values without a key twice for which the order of members makes no
  difference. `Json.ignores_of_steps`: it is enough that it makes none one step at a time.
-/

namespace Playback

namespace Json

/-- The value with members of it in another order, or with another such value in one of its
places. -/
inductive Reordered : Json → Json → Prop
  | refl (value : Json) : Reordered value value
  | trans {value other more : Json} (h : Reordered value other) (h' : Reordered other more) :
    Reordered value more
  | keys {members others : Members} (h : members.Perm others) :
    Reordered (.object members) (.object others)
  | item {value other : Json} (front back : List Json) (h : Reordered value other) :
    Reordered (.list (front ++ value :: back)) (.list (front ++ other :: back))
  | member {value other : Json} (front back : Members) (name : Text) (h : Reordered value other) :
    Reordered (.object (front ++ (name, value) :: back)) (.object (front ++ (name, other) :: back))

namespace Members

variable {α : Type} {name : Text}

/-- Another value of a member changes no name. -/
theorem map_fst_replaced (before after : Members) (key : Text) (value value' : Json) :
    (before ++ (key, value') :: after).map Prod.fst =
      (before ++ (key, value) :: after).map Prod.fst := by
  rw [List.map_append, List.map_append, List.map_cons, List.map_cons]

/-- Another value of a member changes what is read by its name only. -/
theorem map_get?_replaced {before after : Members} {key : Text} {value value' : Json}
    {read : Json → α} (h : name = key → read value' = read value) :
    (get? (before ++ (key, value') :: after) name).map read =
      (get? (before ++ (key, value) :: after) name).map read := by
  unfold get?
  rw [List.lookup_append, List.lookup_append]
  cases List.lookup name before with
  | some found => rfl
  | none =>
    rw [Option.none_or, Option.none_or, List.lookup_cons, List.lookup_cons]
    by_cases hname : name = key
    · rw [beq_iff_eq.2 hname]
      exact congrArg some (h hname)
    · rw [beq_eq_false_iff_ne.2 hname]

theorem get?_replaced {before after : Members} {key : Text} {value value' : Json}
    (h : name ≠ key) :
    get? (before ++ (key, value') :: after) name = get? (before ++ (key, value) :: after) name := by
  have hid : (get? (before ++ (key, value') :: after) name).map id =
      (get? (before ++ (key, value) :: after) name).map id :=
    map_get?_replaced fun hname => absurd hname h
  rwa [Option.map_id_fun, id, id] at hid

end Members

theorem Reordered.hasDistinctKeys {value other : Json} (h : Reordered value other)
    (hkeys : value.HasDistinctKeys) : other.HasDistinctKeys := by
  induction h with
  | refl => exact hkeys
  | trans _ _ ih ih' => exact ih' (ih hkeys)
  | keys hperm => exact hkeys.of_perm hperm
  | item front back _ ih =>
    have hall := hkeys.of_mem_items
    simp only [List.forall_mem_append, List.forall_mem_cons] at hall
    refine .list ?_
    simp only [List.forall_mem_append, List.forall_mem_cons]
    exact ⟨hall.1, ih hall.2.1, hall.2.2⟩
  | member front back name _ ih =>
    exact hkeys.replaced (ih (hkeys.of_mem_members _
      (List.mem_append_right _ List.mem_cons_self)))

theorem Reordered.symm {value other : Json} (h : Reordered value other) :
    Reordered other value := by
  induction h with
  | refl => exact .refl _
  | trans _ _ ih ih' => exact ih'.trans ih
  | keys hperm => exact .keys hperm.symm
  | item front back _ ih => exact .item front back ih
  | member front back name _ ih => exact .member front back name ih

/-- Items behind others, each of them reordered. -/
theorem Reordered.items {items others : List Json} (h : List.Forall₂ Reordered items others)
    (front : List Json) : Reordered (.list (front ++ items)) (.list (front ++ others)) := by
  induction h generalizing front with
  | nil => exact .refl _
  | @cons item other items others hitem _ ih =>
    have hrest := ih (front ++ [other])
    rw [List.append_assoc, List.append_assoc] at hrest
    exact .trans (.item front items hitem) hrest

/-- Members behind others, the value of each of them reordered. -/
theorem Reordered.members {members others : Members}
    (h : List.Forall₂ (fun member other => member.1 = other.1 ∧ Reordered member.2 other.2)
      members others)
    (front : Members) : Reordered (.object (front ++ members)) (.object (front ++ others)) := by
  induction h generalizing front with
  | nil => exact .refl _
  | @cons member other members others hmember _ ih =>
    obtain ⟨name, value⟩ := member
    obtain ⟨_, value'⟩ := other
    obtain ⟨rfl, hvalue⟩ := hmember
    have hrest := ih (front ++ [(name, value')])
    rw [List.append_assoc, List.append_assoc] at hrest
    exact .trans (.member front members name hvalue) hrest

/-- The order of members makes no difference, where no key comes twice. -/
def Ignores {β : Type} (f : Json → β) : Prop :=
  ∀ value other, Reordered value other → value.HasDistinctKeys → f other = f value

/-- It makes none if it makes none in one object, and none in a list or an object with one other
value in it. -/
theorem ignores_of_steps {β : Type} {f : Json → β}
    (hkeys : ∀ members others : Members, members.Perm others → (members.map Prod.fst).Nodup →
      f (.object others) = f (.object members))
    (hitem : ∀ value other, Reordered value other → value.HasDistinctKeys →
      ∀ front back : List Json, f (.list (front ++ other :: back)) =
        f (.list (front ++ value :: back)))
    (hmember : ∀ value other, Reordered value other → value.HasDistinctKeys →
      ∀ (front back : Members) (name : Text), f (.object (front ++ (name, other) :: back)) =
        f (.object (front ++ (name, value) :: back))) : Ignores f := by
  intro value other h hd
  induction h with
  | refl => rfl
  | trans h _ ih ih' => exact (ih' (h.hasDistinctKeys hd)).trans (ih hd)
  | keys hperm => exact hkeys _ _ hperm hd.nodup
  | item front back h =>
    exact hitem _ _ h (hd.of_mem_items _ (List.mem_append_right _ List.mem_cons_self)) front back
  | member front back name h =>
    exact hmember _ _ h (hd.of_mem_members _ (List.mem_append_right _ List.mem_cons_self)) front
      back name

end Json

end Playback
