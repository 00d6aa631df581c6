import Playback.Proofs.Json.Written

/-!
# Objects that have no key twice

A key that comes again keeps its place and gets the later value. So no object that is read has a key
twice.

* `Json.HasDistinctKeys`: no object in the value has a key twice.
* `Json.hasDistinctKeys_step`: one token keeps this of all that was read so far, and
  `Json.hasDistinctKeys_run` all tokens of a text.
* `Json.hasDistinctKeys_of_decode`: what is read has no key twice.
-/

namespace Playback

namespace Json

/-- No object in the value has a key twice. -/
inductive HasDistinctKeys : Json → Prop
  | null : HasDistinctKeys .null
  | bool (value : Bool) : HasDistinctKeys (.bool value)
  | number (value : Number) : HasDistinctKeys (.number value)
  | text (value : Text) : HasDistinctKeys (.text value)
  | list {items : List Json} (h : ∀ item ∈ items, HasDistinctKeys item) :
    HasDistinctKeys (.list items)
  | object {members : List (Text × Json)} (hkeys : (members.map Prod.fst).Nodup)
    (h : ∀ member ∈ members, HasDistinctKeys member.2) : HasDistinctKeys (.object members)

section Values

variable {items : List Json} {members : Members}

theorem HasDistinctKeys.of_mem_items (h : (Json.list items).HasDistinctKeys) :
    ∀ item ∈ items, item.HasDistinctKeys := by
  cases h with
  | list h => exact h

theorem HasDistinctKeys.nodup (h : (Json.object members).HasDistinctKeys) :
    (members.map Prod.fst).Nodup := by
  cases h with
  | object hkeys _ => exact hkeys

theorem HasDistinctKeys.of_mem_members (h : (Json.object members).HasDistinctKeys) :
    ∀ member ∈ members, member.2.HasDistinctKeys := by
  cases h with
  | object _ h => exact h

theorem hasDistinctKeys_put (h : (object members).HasDistinctKeys) {value : Json}
    (hvalue : value.HasDistinctKeys) (key : Text) :
    (object (Assoc.put members key value)).HasDistinctKeys := by
  refine .object (Assoc.nodup_put h.nodup) fun member hmember => ?_
  rcases Assoc.mem_put hmember with rfl | hmember
  · exact hvalue
  · exact h.of_mem_members member hmember

theorem HasDistinctKeys.of_perm {others : Members}
    (h : (Json.object members).HasDistinctKeys) (hperm : members.Perm others) :
    (Json.object others).HasDistinctKeys :=
  .object ((hperm.map Prod.fst).nodup_iff.1 h.nodup) fun member hmember =>
    h.of_mem_members member (hperm.mem_iff.2 hmember)

theorem HasDistinctKeys.replaced {before after : Members} {key : Text} {value value' : Json}
    (h : (Json.object (before ++ (key, value) :: after)).HasDistinctKeys)
    (hvalue : value'.HasDistinctKeys) :
    (Json.object (before ++ (key, value') :: after)).HasDistinctKeys := by
  have hmembers := h.of_mem_members
  refine .object (by simpa using h.nodup) ?_
  simp only [List.forall_mem_append, List.forall_mem_cons] at hmembers ⊢
  exact ⟨hmembers.1, hvalue, hmembers.2.2⟩

end Values

/-! ## Reading -/

/-- No object in what was read inside an open container has a key twice. -/
def Frame.HasDistinctKeys : Frame → Prop
  | .list items => (Json.list items).HasDistinctKeys
  | .member members _ => (Json.object members).HasDistinctKeys

/-- No object in what was read up to a place has a key twice. -/
def Place.HasDistinctKeys : Place → Prop
  | .value outer | .firstItem outer | .firstKey outer => ∀ frame ∈ outer, frame.HasDistinctKeys
  | .key members outer | .colon members _ outer | .afterMember members outer =>
    (Json.object members).HasDistinctKeys ∧ ∀ frame ∈ outer, frame.HasDistinctKeys
  | .afterItem items outer =>
    (Json.list items).HasDistinctKeys ∧ ∀ frame ∈ outer, frame.HasDistinctKeys
  | .finished v => v.HasDistinctKeys

section Places

variable {outer : List Frame} {token : Token} {place next : Place}

/-- A value that is read goes into the innermost container. -/
theorem hasDistinctKeys_behind {v : Json} (h : v.HasDistinctKeys)
    (houter : ∀ frame ∈ outer, frame.HasDistinctKeys) :
    (Place.behind v outer).HasDistinctKeys := by
  cases outer with
  | nil => exact h
  | cons frame outer =>
    obtain ⟨hframe, hrest⟩ := List.forall_mem_cons.1 houter
    cases frame with
    | list items => exact ⟨.list (List.forall_mem_cons.2 ⟨h, hframe.of_mem_items⟩), hrest⟩
    | member members key => exact ⟨hasDistinctKeys_put hframe h key, hrest⟩

theorem hasDistinctKeys_startValue (houter : ∀ frame ∈ outer, frame.HasDistinctKeys)
    (hnext : Place.startValue outer token = .ok next) : next.HasDistinctKeys := by
  cases token with
  | openList | openObject =>
    cases hnext
    exact houter
  | null | bool | number | text =>
    cases hnext
    refine hasDistinctKeys_behind ?_ houter
    constructor
  | closeList | closeObject | colon | comma | badText | hugeNumber | stray => cases hnext

theorem hasDistinctKeys_startMember {members : Members} (h : (object members).HasDistinctKeys)
    (houter : ∀ frame ∈ outer, frame.HasDistinctKeys)
    (hnext : Place.startMember members outer token = .ok next) : next.HasDistinctKeys := by
  cases token <;> cases hnext
  exact ⟨h, houter⟩

/-- One token keeps keys apart. -/
theorem hasDistinctKeys_step (h : place.HasDistinctKeys) (hnext : place.step token = .ok next) :
    next.HasDistinctKeys := by
  have hlist : (Json.list []).HasDistinctKeys := .list nofun
  have hobject : (object []).HasDistinctKeys := .object .nil nofun
  -- where something may be closed at once, any other token starts the first part of it
  cases place with
  | value outer => exact hasDistinctKeys_startValue h hnext
  | firstItem outer =>
    by_cases hclose : token = .closeList
    · subst hclose
      cases hnext
      exact hasDistinctKeys_behind hlist h
    · have hstart : Place.startValue (.list [] :: outer) token = .ok next := by
        rw [← hnext]
        cases token <;> first | rfl | exact absurd rfl hclose
      have houter : ∀ frame ∈ Frame.list [] :: outer, frame.HasDistinctKeys :=
        List.forall_mem_cons.2 ⟨hlist, h⟩
      exact hasDistinctKeys_startValue houter hstart
  | firstKey outer =>
    by_cases hclose : token = .closeObject
    · subst hclose
      cases hnext
      exact hasDistinctKeys_behind hobject h
    · have hstart : Place.startMember [] outer token = .ok next := by
        rw [← hnext]
        cases token <;> first | rfl | exact absurd rfl hclose
      exact hasDistinctKeys_startMember hobject h hstart
  | key members outer => exact hasDistinctKeys_startMember h.1 h.2 hnext
  | colon members key outer =>
    cases token <;> cases hnext
    exact List.forall_mem_cons.2 h
  | afterItem items outer =>
    cases token <;> cases hnext
    · refine hasDistinctKeys_behind (.list fun item hitem => ?_) h.2
      exact h.1.of_mem_items item (List.mem_reverse.1 hitem)
    · exact List.forall_mem_cons.2 h
  | afterMember members outer =>
    cases token <;> cases hnext
    · exact hasDistinctKeys_behind h.1 h.2
    · exact h
  | finished v => cases hnext

/-- So do all tokens of a text. -/
theorem hasDistinctKeys_run {tokens : List Token} {v : Json} (h : place.HasDistinctKeys)
    (hrun : place.run tokens = .ok v) : v.HasDistinctKeys := by
  induction tokens generalizing place with
  | nil =>
    have hfinish : place.finish = .ok v := hrun
    cases place <;> cases hfinish
    exact h
  | cons token tokens ih =>
    cases hstep : place.step token with
    | error fault =>
      rw [Place.run, List.foldlM_cons, hstep] at hrun
      cases hrun
    | ok next =>
      rw [run_cons hstep] at hrun
      exact ih (hasDistinctKeys_step h hstep) hrun

end Places

/-- No object that is read of a text has a key twice. -/
theorem hasDistinctKeys_of_decode {t : Text} {v : Json} (h : decode t = .ok v) :
    v.HasDistinctKeys := by
  have hstart : (Place.value []).HasDistinctKeys := nofun
  unfold decode at h
  split at h
  · cases h
  · exact hasDistinctKeys_run hstart h

end Json

end Playback
