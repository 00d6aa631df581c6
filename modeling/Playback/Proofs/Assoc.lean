import Mathlib.Data.List.Induction
import Mathlib.Data.List.Nodup
import Playback.Assoc

/-!
# What an association list holds

* `mem_of_lookup`: what is found by a key is in the list. `exists_lookup_iff_mem`: something is
  found exactly by the keys that the list has.
* `lookup_eq_some_iff_mem`, `lookup_of_perm`: where no key comes twice, all that is in the list is
  found, in whatever order it stands.
* `Assoc.lookup_put`: only the new entry is found by its key. `Assoc.filter_put`: what is chosen of
  the other entries stays the same.
* `Assoc.nodup_ofPairs`, `Assoc.mem_map_fst_ofPairs`, `Assoc.pairwise_ofPairs`: pairs put one after
  the other have each key once, where it came first.
* `Assoc.lookup_ofPairs`: what is found by a key came last with it.
-/

namespace Playback

section Lookup

variable {κ α : Type} [BEq κ] [LawfulBEq κ] {key : κ} {value : α} {table table' : List (κ × α)}

/-- What is found by a key stands with it in the table. -/
theorem mem_of_lookup (h : List.lookup key table = some value) : (key, value) ∈ table := by
  obtain ⟨front, back, htable, -⟩ := List.lookup_eq_some_iff.1 h
  rw [htable]
  exact List.mem_append_right _ List.mem_cons_self

/-- Nothing is found by a key that the table does not have. -/
theorem lookup_eq_none_iff_not_mem : List.lookup key table = none ↔ key ∉ table.map Prod.fst := by
  rw [List.lookup_eq_none_iff, List.mem_map]
  constructor
  · rintro h ⟨entry, hentry, rfl⟩
    simpa using h entry hentry
  · intro h entry hentry
    rw [bne_iff_ne]
    rintro rfl
    exact h ⟨entry, hentry, rfl⟩

theorem exists_lookup_iff_mem :
    (∃ value, List.lookup key table = some value) ↔ key ∈ table.map Prod.fst := by
  cases h : List.lookup key table with
  | none => exact iff_of_false nofun (lookup_eq_none_iff_not_mem.1 h)
  | some value => exact iff_of_true ⟨value, rfl⟩ (List.mem_map.2 ⟨_, mem_of_lookup h, rfl⟩)

theorem lookup_cons_eq_ite (entry : κ × α) (table : List (κ × α)) [Decidable (key = entry.1)] :
    List.lookup key (entry :: table) =
      if key = entry.1 then some entry.2 else List.lookup key table := by
  rw [List.lookup_cons]
  split
  · next heq => rw [if_pos (beq_iff_eq.1 heq)]
  · next hne => rw [if_neg (beq_eq_false_iff_ne.1 hne)]

/-- Where no key comes twice, what is found by a key is what stands with it. -/
theorem lookup_eq_some_iff_mem (h : (table.map Prod.fst).Nodup) :
    List.lookup key table = some value ↔ (key, value) ∈ table := by
  refine ⟨mem_of_lookup, fun hmem => ?_⟩
  obtain ⟨found, hfound⟩ := exists_lookup_iff_mem.2 (List.mem_map_of_mem hmem)
  have hsame := List.inj_on_of_nodup_map h (mem_of_lookup hfound) hmem rfl
  rw [hfound, (Prod.mk.inj hsame).2]

theorem lookup_of_perm (hperm : table.Perm table') (h : (table.map Prod.fst).Nodup) :
    List.lookup key table' = List.lookup key table := by
  have h' : (table'.map Prod.fst).Nodup := (hperm.map Prod.fst).nodup_iff.1 h
  ext value
  rw [lookup_eq_some_iff_mem h, lookup_eq_some_iff_mem h', hperm.mem_iff]

end Lookup

namespace Assoc

variable {κ α : Type} [DecidableEq κ] {entries : List (κ × α)} {key : κ} {value : α}

section Put

/-- A new key comes last. -/
theorem put_of_not_mem (h : key ∉ entries.map Prod.fst) (value : α) :
    put entries key value = entries ++ [(key, value)] := by
  induction entries with
  | nil => rfl
  | cons entry entries ih =>
    rw [List.map_cons, List.mem_cons, not_or] at h
    rw [put, if_neg (Ne.symm h.1), ih h.2, List.cons_append]

theorem mem_put {entry : κ × α} (h : entry ∈ put entries key value) :
    entry = (key, value) ∨ entry ∈ entries := by
  induction entries with
  | nil => exact .inl (List.mem_singleton.1 h)
  | cons first entries ih =>
    unfold put at h
    split at h
    · exact (List.mem_cons.1 h).imp_right (List.mem_cons_of_mem first)
    · rcases List.mem_cons.1 h with rfl | h
      · exact .inr List.mem_cons_self
      · exact (ih h).imp_right (List.mem_cons_of_mem first)

/-- The keys stay the same, with a new one behind them. -/
theorem map_fst_put (entries : List (κ × α)) (key : κ) (value : α) :
    (put entries key value).map Prod.fst =
      if key ∈ entries.map Prod.fst then entries.map Prod.fst
      else entries.map Prod.fst ++ [key] := by
  split
  · next hmem =>
    induction entries with
    | nil => cases hmem
    | cons first entries ih =>
      by_cases hkey : first.1 = key
      · rw [put, if_pos hkey, List.map_cons, List.map_cons, hkey]
      · have hrest : key ∈ entries.map Prod.fst :=
          (List.mem_cons.1 hmem).resolve_left (Ne.symm hkey)
        rw [put, if_neg hkey, List.map_cons, List.map_cons, ih hrest]
  · next hnot => rw [put_of_not_mem hnot, List.map_append, List.map_singleton]

theorem nodup_put (h : (entries.map Prod.fst).Nodup) :
    ((put entries key value).map Prod.fst).Nodup := by
  rw [map_fst_put]
  split
  · exact h
  · next hnot =>
    exact List.nodup_append_comm.1 (List.nodup_cons.2 ⟨hnot, h⟩)

/-- By the key of the new entry its value is found, and by any other one what was found before. -/
theorem lookup_put [BEq κ] [LawfulBEq κ] (entries : List (κ × α)) (key other : κ) (value : α) :
    List.lookup other (put entries key value) =
      if other = key then some value else List.lookup other entries := by
  induction entries with
  | nil => exact lookup_cons_eq_ite (key, value) []
  | cons first entries ih =>
    rw [put, lookup_cons_eq_ite first]
    split
    · next hkey =>
      rw [lookup_cons_eq_ite, hkey]
      split <;> rfl
    · next hkey =>
      rw [lookup_cons_eq_ite, ih]
      split
      · next hother => rw [if_neg (hother.trans_ne hkey)]
      · rfl

/-- A choice that never takes the key takes the same of the entries. -/
theorem filter_put {p : κ × α → Bool} (h : ∀ value, p (key, value) = false) :
    (put entries key value).filter p = entries.filter p := by
  have hpass {entry : κ × α} (hkey : entry.1 = key) : ¬ p entry := by
    obtain ⟨_, old⟩ := entry
    cases hkey
    simp [h old]
  induction entries with
  | nil => exact List.filter_cons_of_neg (hpass rfl)
  | cons first entries ih =>
    unfold put
    split
    · next hkey => rw [List.filter_cons_of_neg (hpass rfl), List.filter_cons_of_neg (hpass hkey)]
    · rw [List.filter_cons, List.filter_cons, ih]

end Put

section OfPairs

variable (pairs : List (κ × α))

theorem ofPairs_concat (pair : κ × α) :
    ofPairs (pairs ++ [pair]) = put (ofPairs pairs) pair.1 pair.2 := by
  rw [ofPairs, List.foldl_concat]
  rfl

theorem nodup_ofPairs : ((ofPairs pairs).map Prod.fst).Nodup := by
  induction pairs using List.reverseRecOn with
  | nil => exact List.nodup_nil
  | append_singleton pairs pair ih =>
    rw [ofPairs_concat]
    exact nodup_put ih

theorem mem_map_fst_ofPairs {key : κ} :
    key ∈ (ofPairs pairs).map Prod.fst ↔ key ∈ pairs.map Prod.fst := by
  induction pairs using List.reverseRecOn with
  | nil => rfl
  | append_singleton pairs pair ih =>
    rw [ofPairs_concat, map_fst_put, List.map_append, List.mem_append, ← ih, List.map_singleton,
      List.mem_singleton]
    split
    · next hmem => exact ⟨.inl, fun h => h.elim id (by rintro rfl; exact hmem)⟩
    · rw [List.mem_append, List.mem_singleton]

/-- The keys stand in the order in which they came first. -/
theorem pairwise_ofPairs : ((ofPairs pairs).map Prod.fst).Pairwise fun key other =>
    (pairs.map Prod.fst).idxOf key < (pairs.map Prod.fst).idxOf other := by
  induction pairs using List.reverseRecOn with
  | nil => exact .nil
  | append_singleton pairs pair ih =>
    rw [ofPairs_concat, map_fst_put, List.map_append, List.map_singleton]
    have hmem {key : κ} (h : key ∈ (ofPairs pairs).map Prod.fst) : key ∈ pairs.map Prod.fst :=
      (mem_map_fst_ofPairs pairs).1 h
    -- A pair behind the others does not move the first place of a key.
    have hsame {key : κ} (h : key ∈ (ofPairs pairs).map Prod.fst) :
        (pairs.map Prod.fst ++ [pair.1]).idxOf key = (pairs.map Prod.fst).idxOf key :=
      List.idxOf_append_of_mem (hmem h)
    have hfront : ((ofPairs pairs).map Prod.fst).Pairwise fun key other =>
        (pairs.map Prod.fst ++ [pair.1]).idxOf key <
          (pairs.map Prod.fst ++ [pair.1]).idxOf other := by
      refine ih.imp_of_mem fun hkey hother hlt => ?_
      rwa [hsame hkey, hsame hother]
    split
    · exact hfront
    · next hnew =>
      rw [List.pairwise_append]
      refine ⟨hfront, List.pairwise_singleton _ _, fun key hkey other hother => ?_⟩
      rw [List.mem_singleton.1 hother, hsame hkey,
        List.idxOf_append_of_notMem (mt (mem_map_fst_ofPairs pairs).2 hnew)]
      exact Nat.lt_add_right _ (List.idxOf_lt_length_of_mem (hmem hkey))

/-- By a key the value is found that came last with it. -/
theorem lookup_ofPairs (key : κ) :
    List.lookup key (ofPairs pairs) = List.lookup key pairs.reverse := by
  induction pairs using List.reverseRecOn with
  | nil => rfl
  | append_singleton pairs pair ih =>
    rw [ofPairs_concat, lookup_put, ih, List.reverse_concat, lookup_cons_eq_ite]

end OfPairs

end Assoc

end Playback
