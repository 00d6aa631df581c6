import Playback.Json.Encode
import Playback.Proofs.Json.Reordered
import Playback.Proofs.Text.Sorted

/-!
# Values with their keys in order

* `Json.HasSortedKeys`: in every object of the value the keys are ascending.
* `Json.sorted_object`: a sorted object has the sorted members, one put in front of the other.
* `Json.reordered_sorted`: only the order of members is another in the sorted value.
  `Json.hasSortedKeys_sorted`: its keys are ascending.
* `Json.sorted_of_reordered`: in whatever order the members are, the sorted value is the same.
  `Json.sorted_eq_iff_reordered`: this says that they are the same members.
-/

namespace Playback

namespace Json

/-- In every object of the value the keys are ascending. -/
inductive HasSortedKeys : Json → Prop
  | null : HasSortedKeys .null
  | bool (value : Bool) : HasSortedKeys (.bool value)
  | number (value : Number) : HasSortedKeys (.number value)
  | text (value : Text) : HasSortedKeys (.text value)
  | list {items : List Json} (h : ∀ item ∈ items, HasSortedKeys item) : HasSortedKeys (.list items)
  | object {members : List (Text × Json)} (hkeys : Text.IsAscending (members.map Prod.fst))
    (h : ∀ member ∈ members, HasSortedKeys member.2) : HasSortedKeys (.object members)

/-- Members in the order of their keys. -/
def Members.inOrder (members : Members) : Members := members.foldr insertByKey []

/-- The members with their values sorted. -/
def Members.mapSorted (members : Members) : Members :=
  members.map fun (key, value) => (key, value.sorted)

section Members

variable {members others : Members}

theorem perm_insertByKey (member : Text × Json) (members : Members) :
    (insertByKey member members).Perm (member :: members) := by
  induction members with
  | nil => rfl
  | cons other rest ih =>
    unfold insertByKey
    split
    · rfl
    · exact (ih.cons other).trans (.swap member other rest)

theorem Members.perm_inOrder (members : Members) : members.inOrder.Perm members := by
  induction members with
  | nil => rfl
  | cons member members ih => exact (perm_insertByKey member _).trans (ih.cons member)

/-- A new key is put among the others as texts are. -/
theorem map_fst_insertByKey {member : Text × Json} (h : member.1 ∉ members.map Prod.fst) :
    (insertByKey member members).map Prod.fst =
      Text.insertInto member.1 (members.map Prod.fst) := by
  induction members with
  | nil => rfl
  | cons other rest ih =>
    rw [List.map_cons, List.mem_cons, not_or] at h
    rw [insertByKey, List.map_cons, Text.insertInto, if_neg h.1]
    split
    · rfl
    · rw [List.map_cons, ih h.2]

/-- Keys that are apart come in the order of texts. -/
theorem Members.map_fst_inOrder (h : (members.map Prod.fst).Nodup) :
    members.inOrder.map Prod.fst = Text.sortedSet (members.map Prod.fst) := by
  induction members with
  | nil => rfl
  | cons member members ih =>
    obtain ⟨hnew, hrest⟩ := List.nodup_cons.1 h
    have hnew' : member.1 ∉ (inOrder members).map Prod.fst := by
      rwa [((perm_inOrder members).map Prod.fst).mem_iff]
    show (insertByKey member (inOrder members)).map Prod.fst = _
    rw [map_fst_insertByKey hnew', ih hrest]
    rfl

theorem Members.isAscending_inOrder (h : (members.map Prod.fst).Nodup) :
    Text.IsAscending (members.inOrder.map Prod.fst) := by
  rw [map_fst_inOrder h]
  exact Text.isAscending_sortedSet _

/-- There is one order of members only. -/
theorem Members.inOrder_of_perm (hperm : members.Perm others) (h : (members.map Prod.fst).Nodup) :
    others.inOrder = members.inOrder := by
  have hnodup : (others.map Prod.fst).Nodup := (hperm.map Prod.fst).nodup_iff.1 h
  have hsame : others.inOrder.Perm members.inOrder :=
    (perm_inOrder others).trans (hperm.symm.trans (perm_inOrder members).symm)
  exact hsame.eq_of_pairwise (fun _ _ _ _ hbefore hbehind => absurd hbehind hbefore.asymm)
    (List.pairwise_map.1 (isAscending_inOrder hnodup))
    (List.pairwise_map.1 (isAscending_inOrder h))

@[simp] theorem Members.map_fst_mapSorted (members : Members) :
    members.mapSorted.map Prod.fst = members.map Prod.fst := by
  simp [mapSorted, Function.comp_def]

end Members

theorem sorted_list (items : List Json) : sorted (.list items) = .list (items.map sorted) := by
  have hitems : sortedItems items = items.map sorted := by
    induction items with
    | nil => rfl
    | cons item items ih => rw [sortedItems, List.map_cons, ih]
  rw [sorted, hitems]

theorem sorted_object (members : Members) :
    sorted (.object members) = .object members.mapSorted.inOrder := by
  have hmembers : sortedMembers members = members.mapSorted.inOrder := by
    induction members with
    | nil => rfl
    | cons member members ih =>
      rw [sortedMembers, ih]
      rfl
  rw [sorted, hmembers]

/-- Sorting changes the order of members only. -/
theorem reordered_sorted {value : Json} (h : value.HasDistinctKeys) :
    Reordered value value.sorted := by
  induction h with
  | null | bool | number | text => exact .refl _
  | @list items _ ih =>
    rw [sorted_list]
    exact .items (List.forall₂_map_right_iff.2 (List.forall₂_same.2 ih)) []
  | @object members _ _ ih =>
    have hvalues : List.Forall₂ (fun member other => member.1 = other.1 ∧
        Reordered member.2 other.2) members (Members.mapSorted members) :=
      List.forall₂_map_right_iff.2
        (List.forall₂_same.2 fun member hmember => ⟨rfl, ih member hmember⟩)
    rw [sorted_object]
    exact (Reordered.members hvalues []).trans (.keys (Members.perm_inOrder _).symm)

theorem hasSortedKeys_sorted {value : Json} (h : value.HasDistinctKeys) :
    value.sorted.HasSortedKeys := by
  induction h with
  | null | bool | number | text => constructor
  | list _ ih =>
    rw [sorted_list]
    exact .list (List.forall_mem_map.2 ih)
  | @object members hkeys _ ih =>
    rw [sorted_object]
    refine .object (Members.isAscending_inOrder (by simpa using hkeys)) fun member hmember => ?_
    obtain ⟨unsorted, hunsorted, rfl⟩ :=
      List.mem_map.1 ((Members.perm_inOrder _).mem_iff.1 hmember)
    exact ih unsorted hunsorted

/-- The sorted value does not depend on the order of members. -/
theorem sorted_of_reordered {value other : Json} (h : Reordered value other)
    (hkeys : value.HasDistinctKeys) : other.sorted = value.sorted := by
  induction h with
  | refl => rfl
  | trans h _ ih ih' => exact (ih' (h.hasDistinctKeys hkeys)).trans (ih hkeys)
  | @keys members others hperm =>
    have hmapped : members.mapSorted.Perm others.mapSorted := hperm.map _
    rw [sorted_object, sorted_object,
      Members.inOrder_of_perm hmapped (by simpa using hkeys.nodup)]
  | item front back _ ih =>
    have hitem := hkeys.of_mem_items _ (List.mem_append_right _ List.mem_cons_self)
    simp only [sorted_list, List.map_append, List.map_cons, ih hitem]
  | member front back name _ ih =>
    have hmember := hkeys.of_mem_members _ (List.mem_append_right _ List.mem_cons_self)
    simp only [sorted_object, Members.mapSorted, List.map_append, List.map_cons, ih hmember]

/-- Values are the same when sorted exactly if they differ in the order of members only. -/
theorem sorted_eq_iff_reordered {value other : Json} (hv : value.HasDistinctKeys)
    (ho : other.HasDistinctKeys) : value.sorted = other.sorted ↔ Reordered value other := by
  refine ⟨fun h => ?_, fun h => (sorted_of_reordered h hv).symm⟩
  have hsorted := reordered_sorted hv
  rw [h] at hsorted
  exact hsorted.trans (reordered_sorted ho).symm

end Json

end Playback
