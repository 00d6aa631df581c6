import Mathlib.Data.List.Forall2
import Playback.Proofs.Json.DistinctKeys
import Playback.Proofs.Schema.Checked

/-!
# Members that agree on the fields

What a record has besides its fields, and the order of its members, is not read. So two records are
read alike if they agree on the members that the fields can be read from.

* `Json.Members.declared`: the members with a name that a field is read by.
* `Json.Members.AgreeOn`: two records whose declared members have the same names, in any order, and
  related values.
* `Json.Members.AgreeOn.rel_entry`: a field is read from related members of the two.
* `Json.Members.required_congr`, `Json.Members.optional_congr`, `Json.Members.optional_of_rel`: a
  field that is read from the same member has the same value, and one that is read from related
  members has related values.
-/

namespace Playback

/-- The names that a field is read by. -/
def Field.names (field : Field) : List Text := field.name :: field.second?.toList

section Options

variable {α β : Type} {a? b? : Option α}

theorem rel_imp {R S : α → α → Prop} (h : Option.Rel R a? b?) (hR : ∀ a b, R a b → S a b) :
    Option.Rel S a? b? := by
  cases h with
  | none => exact .none
  | some h => exact .some (hR _ _ h)

theorem rel_map {R : β → β → Prop} {f : α → β} (h : Option.Rel (fun a b => R (f a) (f b)) a? b?) :
    Option.Rel R (a?.map f) (b?.map f) := by
  cases h with
  | none => exact .none
  | some h => exact .some h

theorem eq_of_rel (h : Option.Rel Eq a? b?) : a? = b? := by
  cases h with
  | none => rfl
  | some h => rw [h]

end Options

namespace Json.Members

/-- The members with a name that one of the fields is read by. -/
def declared (members : Members) (fields : List Field) : Members :=
  members.filter fun member => (fields.flatMap Field.names).contains member.1

/-- Two members with one name and related values. -/
def Agree (same : Text → Json → Json → Prop) (member member' : Text × Json) : Prop :=
  member.1 = member'.1 ∧ same member.1 member.2 member'.2

/-- The declared members have, in some order, the same names and related values. -/
def AgreeOn (fields : List Field) (same : Text → Json → Json → Prop)
    (members others : Members) : Prop :=
  ∃ arranged, (members.declared fields).Perm arranged ∧
    List.Forall₂ (Agree same) arranged (others.declared fields)

/-- A field is read from a member with one of its names. -/
theorem mem_of_entry {members : Members} {field : Field} {entry : Text × Json}
    (h : members.entry? field = some entry) : entry ∈ members ∧ entry.1 ∈ field.names := by
  unfold entry? at h
  split at h
  · next value hvalue =>
    cases h
    exact ⟨mem_of_lookup hvalue, List.mem_cons_self⟩
  · obtain ⟨second, hsecond, hentry⟩ := Option.bind_eq_some_iff.1 h
    obtain ⟨value, hvalue, rfl⟩ := Option.map_eq_some_iff.1 hentry
    refine ⟨mem_of_lookup hvalue, List.mem_cons_of_mem _ ?_⟩
    rw [hsecond]
    exact List.mem_singleton_self second

section Entries

variable {fields : List Field} {same : Text → Json → Json → Prop} {members others : Members}

theorem get?_declared {name : Text} (h : name ∈ fields.flatMap Field.names) :
    (members.declared fields).get? name = members.get? name := by
  unfold declared get?
  induction members with
  | nil => rfl
  | cons member members ih =>
    rw [List.lookup_cons]
    by_cases hname : name = member.1
    · have hdeclared : (fields.flatMap Field.names).contains member.1 :=
        List.contains_iff_mem.2 (hname ▸ h)
      rw [List.filter_cons, if_pos hdeclared, List.lookup_cons, beq_iff_eq.2 hname]
    · rw [List.filter_cons, beq_eq_false_iff_ne.2 hname]
      split
      · rw [List.lookup_cons, beq_eq_false_iff_ne.2 hname]
        exact ih
      · exact ih

/-- In two lists of members that agree one by one, what a name finds agrees. -/
theorem rel_get_of_forall₂ (h : List.Forall₂ (Agree same) members others) (name : Text) :
    Option.Rel (same name) (members.get? name) (others.get? name) := by
  unfold get?
  induction h with
  | nil => exact .none
  | @cons member member' members others hfirst hrest ih =>
    obtain ⟨hname, hvalue⟩ := hfirst
    rw [List.lookup_cons, List.lookup_cons, ← hname]
    by_cases hfound : name = member.1
    · rw [beq_iff_eq.2 hfound, hfound]
      exact .some hvalue
    · rw [beq_eq_false_iff_ne.2 hfound]
      exact ih

/-- What a declared name finds agrees, if no name comes twice. -/
theorem AgreeOn.rel_get (h : AgreeOn fields same members others)
    (hkeys : (members.map Prod.fst).Nodup) {name : Text}
    (hname : name ∈ fields.flatMap Field.names) :
    Option.Rel (same name) (members.get? name) (others.get? name) := by
  obtain ⟨arranged, hperm, hagree⟩ := h
  have hdeclared : ((members.declared fields).map Prod.fst).Nodup :=
    hkeys.sublist (List.filter_sublist.map Prod.fst)
  have harranged : get? arranged name = members.get? name :=
    (lookup_of_perm hperm hdeclared).trans (get?_declared hname)
  have hdeclared' : (others.declared fields).get? name = others.get? name :=
    get?_declared hname
  rw [← harranged, ← hdeclared']
  exact rel_get_of_forall₂ hagree name

/-- A field is read from members that agree if all that its names find agrees. -/
theorem rel_entry_of_rel_get {field : Field}
    (h : ∀ name ∈ field.names, Option.Rel (same name) (members.get? name) (others.get? name)) :
    Option.Rel (Agree same) (members.entry? field) (others.entry? field) := by
  have hentry {name : Text} (hname : name ∈ field.names) : Option.Rel (Agree same)
      ((members.get? name).map (name, ·)) ((others.get? name).map (name, ·)) :=
    rel_map (rel_imp (h name hname) fun _ _ hvalue => ⟨rfl, hvalue⟩)
  have hfirst := h field.name List.mem_cons_self
  unfold entry?
  revert hfirst
  cases members.get? field.name <;> cases others.get? field.name <;> rintro ⟨⟩
  · cases hsecond : field.second? with
    | none => exact .none
    | some second =>
      refine hentry (List.mem_cons_of_mem _ ?_)
      rw [hsecond]
      exact List.mem_singleton_self second
  · next hvalue => exact .some ⟨rfl, hvalue⟩

/-- A declared field is read from members that agree. -/
theorem AgreeOn.rel_entry (h : AgreeOn fields same members others)
    (hkeys : (members.map Prod.fst).Nodup) {field : Field} (hfield : field ∈ fields) :
    Option.Rel (Agree same) (members.entry? field) (others.entry? field) :=
  rel_entry_of_rel_get fun _ hname => h.rel_get hkeys (List.mem_flatMap.2 ⟨field, hfield, hname⟩)

/-- A declared field whose values are equal if they are related is read from one member. -/
theorem AgreeOn.entry_eq (h : AgreeOn fields same members others)
    (hkeys : (members.map Prod.fst).Nodup) {field : Field} (hfield : field ∈ fields)
    (hsame : ∀ name ∈ field.names, ∀ value value', same name value value' → value = value') :
    others.entry? field = members.entry? field := by
  have hequal : Option.Rel (Agree fun _ => Eq) (members.entry? field) (others.entry? field) := by
    refine rel_entry_of_rel_get fun name hname => ?_
    exact rel_imp (h.rel_get hkeys (List.mem_flatMap.2 ⟨field, hfield, hname⟩)) (hsame name hname)
  exact (eq_of_rel (rel_imp hequal fun _ _ hagree => Prod.ext hagree.1 hagree.2)).symm

end Entries

section Readers

variable {α : Type} {members others : Members} {field : Field} {read : Json → Checked α}

theorem required_congr (h : others.entry? field = members.entry? field) :
    others.required field read = members.required field read := by
  unfold required
  rw [h]

theorem optional_congr {absent : α} (h : others.entry? field = members.entry? field) :
    others.optional field absent read = members.optional field absent read := by
  unfold optional
  rw [h]

/-- A field that is read from related members, where the readings of related values are related. -/
theorem optional_of_rel {same : Text → Json → Json → Prop} {R : α → α → Prop} {absent a : α}
    (hentry : Option.Rel (Agree same) (members.entry? field) (others.entry? field))
    (habsent : R absent absent)
    (hread : ∀ entry entry', members.entry? field = some entry →
      others.entry? field = some entry' → Agree same entry entry' →
        read entry.2 = .valid a → ∃ b, read entry'.2 = .valid b ∧ R a b)
    (h : members.optional field absent read = .valid a) :
    ∃ b, others.optional field absent read = .valid b ∧ R a b := by
  rcases optional_eq_valid_iff.1 h with ⟨hnone, rfl⟩ | ⟨entry, hsome, hvalue⟩
  · rw [hnone] at hentry
    generalize hnone' : others.entry? field = entry at hentry
    cases hentry
    exact ⟨absent, optional_eq_valid_iff.2 (.inl ⟨hnone', rfl⟩), habsent⟩
  · rw [hsome] at hentry
    generalize hsome' : others.entry? field = entry at hentry
    cases hentry with
    | some hagree =>
      obtain ⟨b, hb, hab⟩ := hread _ _ hsome hsome' hagree hvalue
      exact ⟨b, optional_eq_valid_iff.2 (.inr ⟨_, hsome', hb⟩), hab⟩

end Readers

end Json.Members

end Playback
