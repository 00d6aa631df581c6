import Mathlib.Data.List.Forall2

/-!
# Results and errors

When a computation in steps, or one for each element of a list, has a value, and which error it ends
with if it has none. In front of that, lists whose elements are related one by one, as those of
arguments and values are: what holds of each element (`forall_left_of_forall₂`,
`forall_right_of_forall₂`, `exists_left_of_forall₂`), how two such lists are taken apart
(`forall₂_append_iff`), and how values are carried over to related arguments
(`exists_forall₂_of_forall₂`).
-/

namespace Playback

section Related

variable {α β γ δ : Type} {R : α → β → Prop} {as : List α} {bs : List β}

theorem forall_left_of_forall₂ {p : α → Prop} (h : List.Forall₂ R as bs)
    (hp : ∀ a b, R a b → p a) : ∀ a ∈ as, p a :=
  ((List.forall₂_and_left as bs).1 (h.imp fun a b hab => ⟨hp a b hab, hab⟩)).1

theorem forall_right_of_forall₂ {p : β → Prop} (h : List.Forall₂ R as bs)
    (hp : ∀ a b, R a b → p b) : ∀ b ∈ bs, p b :=
  forall_left_of_forall₂ h.flip fun b a hab => hp a b hab

/-- An element of the second list is related to one of the first. -/
theorem exists_left_of_forall₂ (h : List.Forall₂ R as bs) {b : β} (hb : b ∈ bs) :
    ∃ a ∈ as, R a b := by
  induction h with
  | nil => cases hb
  | @cons first _ as bs hfirst _ ih =>
    rcases List.mem_cons.1 hb with rfl | hb
    · exact ⟨first, List.mem_cons_self, hfirst⟩
    · obtain ⟨a, ha, hab⟩ := ih hb
      exact ⟨a, List.mem_cons_of_mem first ha, hab⟩

/-- What stands behind an append is an append itself. -/
theorem forall₂_append_iff {front back : List α} {results : List β} :
    List.Forall₂ R (front ++ back) results ↔ ∃ first second, results = first ++ second ∧
      List.Forall₂ R front first ∧ List.Forall₂ R back second := by
  constructor
  · intro h
    induction front generalizing results with
    | nil => exact ⟨[], results, rfl, .nil, h⟩
    | cons a front ih =>
      cases h with
      | cons ha hrest =>
        obtain ⟨first, second, rfl, hfirst, hsecond⟩ := ih hrest
        exact ⟨_ :: first, second, rfl, .cons ha hfirst, hsecond⟩
  · rintro ⟨first, second, rfl, hfirst, hsecond⟩
    exact List.rel_append hfirst hsecond

/-- Values of arguments are carried over to related arguments of which something is known, if that
is so for each two of them. -/
theorem exists_forall₂_of_forall₂ {p : α → Prop} {q : β → Prop} {S : α → γ → Prop}
    {S' : β → δ → Prop} {T : γ → δ → Prop} {cs : List γ} (h : List.Forall₂ R as bs)
    (hp : ∀ a ∈ as, p a) (hq : ∀ b ∈ bs, q b) (hvalues : List.Forall₂ S as cs)
    (step : ∀ a b c, R a b → p a → q b → S a c → ∃ d, S' b d ∧ T c d) :
    ∃ ds, List.Forall₂ S' bs ds ∧ List.Forall₂ T cs ds := by
  induction h generalizing cs with
  | nil =>
    cases hvalues
    exact ⟨[], .nil, .nil⟩
  | cons hab _ ih =>
    obtain ⟨ha, has⟩ := List.forall_mem_cons.1 hp
    obtain ⟨hb, hbs⟩ := List.forall_mem_cons.1 hq
    cases hvalues with
    | cons hac hrest =>
      obtain ⟨d, hbd, hcd⟩ := step _ _ _ hab ha hb hac
      obtain ⟨ds, hbds, hcds⟩ := ih has hbs hrest
      exact ⟨d :: ds, .cons hbd hbds, .cons hcd hcds⟩

end Related

section Except

variable {ε α β : Type}

theorem ok_bind (a : α) (next : α → Except ε β) : Except.ok a >>= next = next a := rfl

theorem bind_eq_ok_iff {first : Except ε α} {next : α → Except ε β} {b : β} :
    first >>= next = .ok b ↔ ∃ a, first = .ok a ∧ next a = .ok b := by
  cases first with
  | error e => simp [bind, Except.bind]
  | ok a => simp [bind, Except.bind]

theorem bind_eq_error_iff {first : Except ε α} {next : α → Except ε β} {e : ε} :
    first >>= next = .error e ↔ first = .error e ∨ ∃ a, first = .ok a ∧ next a = .error e := by
  cases first with
  | error e => simp [bind, Except.bind]
  | ok a => simp [bind, Except.bind]

theorem exists_map_eq_ok_iff {f : α → β} {result : Except ε α} :
    (∃ b, f <$> result = .ok b) ↔ ∃ a, result = .ok a := by
  cases result <;> simp [Functor.map, Except.map]

theorem toOption_eq_some_iff {result : Except ε α} {a : α} :
    result.toOption = some a ↔ result = .ok a := by
  cases result <;> simp [Except.toOption]

variable {f : α → Except ε β}

/-- All elements have values if each of them has one. -/
theorem mapM_eq_ok_iff {as : List α} {bs : List β} :
    as.mapM f = .ok bs ↔ List.Forall₂ (fun a b => f a = .ok b) as bs := by
  induction as generalizing bs with
  | nil =>
    rw [List.forall₂_nil_left_iff, List.mapM_nil]
    exact ⟨fun h => (Except.ok.inj h).symm, fun h => by rw [h]; rfl⟩
  | cons a as ih =>
    simp only [List.mapM_cons, bind_eq_ok_iff, ih]
    constructor
    · rintro ⟨b, hb, rest, hrest, h⟩
      cases h
      exact .cons hb hrest
    · rintro (_ | ⟨hb, hrest⟩)
      exact ⟨_, hb, _, hrest, rfl⟩

/-- There are values for all elements if there is one for each of them. -/
theorem exists_mapM_eq_ok_iff {as : List α} :
    (∃ bs, as.mapM f = .ok bs) ↔ ∀ a ∈ as, ∃ b, f a = .ok b := by
  induction as with
  | nil => exact ⟨fun _ => by simp, fun _ => ⟨[], rfl⟩⟩
  | cons a as ih =>
    simp only [List.mapM_cons, bind_eq_ok_iff, List.forall_mem_cons, ← ih]
    constructor
    · rintro ⟨_, b, hb, bs, hbs, -⟩
      exact ⟨⟨b, hb⟩, bs, hbs⟩
    · rintro ⟨⟨b, hb⟩, bs, hbs⟩
      exact ⟨b :: bs, b, hb, bs, hbs, rfl⟩

/-- The error is that of the first element that has one. -/
theorem mapM_eq_error_iff {as : List α} {e : ε} :
    as.mapM f = .error e ↔ ∃ before a after, as = before ++ a :: after ∧
      (∀ other ∈ before, ∃ b, f other = .ok b) ∧ f a = .error e := by
  induction as with
  | nil =>
    constructor
    · intro h
      cases h
    · rintro ⟨before, a, after, h, -⟩
      cases before <;> cases h
  | cons a as ih =>
    simp only [List.mapM_cons, bind_eq_error_iff, ih]
    constructor
    · rintro (h | ⟨b, hb, ⟨before, failing, after, rfl, hbefore, hf⟩ | ⟨bs, -, h⟩⟩)
      · exact ⟨[], a, as, rfl, by simp, h⟩
      · exact ⟨a :: before, failing, after, rfl, List.forall_mem_cons.2 ⟨⟨b, hb⟩, hbefore⟩, hf⟩
      · cases h
    · rintro ⟨before, failing, after, h, hbefore, hf⟩
      cases before with
      | nil =>
        cases h
        exact .inl hf
      | cons first before =>
        cases h
        obtain ⟨⟨b, hb⟩, hrest⟩ := List.forall_mem_cons.1 hbefore
        exact .inr ⟨b, hb, .inl ⟨before, failing, after, rfl, hrest, hf⟩⟩

end Except

end Playback
