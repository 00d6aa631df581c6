import Playback.Proofs.Locator.Calls

/-!
# Values of attributes in selectors

In the value of an attribute only quotes and backslashes are escaped, and every other character
stands for itself, control characters included. Such a value is read back if it is a literal, which
may not hold control characters, or if nothing in it is escaped. Otherwise the backslashes in front
of what is escaped stay.

* `Selector.attributeItems`: a text as the value of an attribute.
* `Text.MixesControl`: the texts whose values are not read back.
* `Selector.argument_attributeItems`: what the value of an attribute is read as.
* `Selector.Attribute`: the places of selectors where such a value may stand.
* `Selector.apply_link_attribute`: the call that a selector with such a value comes to. Its text is
  that of the value exactly if this is none of these texts, `Selector.apply_link_attribute_iff`.
-/

namespace Playback

/-- Is the code point escaped in the value of an attribute? -/
def CodePoint.isEscapedMark (p : CodePoint) : Bool := p == .char '"' || p == .char '\\'

/-- The text has a control character and a character that is escaped. -/
def Text.MixesControl (t : Text) : Prop := (∃ p ∈ t, p.toNat < 0x20) ∧ ∃ p ∈ t, p.isEscapedMark

instance (t : Text) : Decidable t.MixesControl :=
  inferInstanceAs (Decidable ((∃ p ∈ t, p.toNat < 0x20) ∧ ∃ p ∈ t, p.isEscapedMark))

namespace Selector

/-- A code point in the value of an attribute. -/
def attributeItem (p : CodePoint) : Text := if p.isEscapedMark then [.char '\\', p] else [p]

/-- A text as the value of an attribute, without the quotes around it. -/
def attributeItems (t : Text) : Text := t.flatMap attributeItem

theorem attributeItem_of_escaped {p : CodePoint} (h : p.isEscapedMark) :
    attributeItem p = [.char '\\', p] := if_pos h

theorem attributeItem_of_plain {p : CodePoint} (h : p.isEscapedMark = false) :
    attributeItem p = [p] := if_neg (by simp [h])

theorem ne_of_not_isEscapedMark {p : CodePoint} (h : p.isEscapedMark = false) :
    p ≠ .char '"' ∧ p ≠ .char '\\' := by
  simpa [CodePoint.isEscapedMark] using h

theorem areItems_attributeItems (t : Text) : AreItems (attributeItems t) := by
  unfold attributeItems
  induction t with
  | nil => exact .nil
  | cons p t ih =>
    rw [List.flatMap_cons]
    cases hp : p.isEscapedMark with
    | true =>
      rw [attributeItem_of_escaped hp]
      exact .escaped p ih
    | false =>
      obtain ⟨hq, hb⟩ := ne_of_not_isEscapedMark hp
      rw [attributeItem_of_plain hp]
      exact .plain hq hb ih

/-- A text as the value of an attribute. -/
def Quotation.ofValue (t : Text) : Quotation := ⟨attributeItems t, areItems_attributeItems t⟩

/-! ## What a value is read as -/

/-- What is escaped stands for itself behind the backslash. -/
theorem scanItems_attributeItem {p : CodePoint} (h : ¬ p.toNat < 0x20) (rest : Text) :
    Quoted.scanItems (attributeItem p ++ rest) =
      (Quoted.scanItems rest).map (Quoted.Item.plain p).before := by
  cases hp : p.isEscapedMark with
  | true =>
    rw [attributeItem_of_escaped hp]
    simp only [CodePoint.isEscapedMark, Bool.or_eq_true, beq_iff_eq] at hp
    rcases hp with rfl | rfl <;> exact Quoted.scanItems_mark rfl rest
  | false =>
    obtain ⟨hq, hb⟩ := ne_of_not_isEscapedMark hp
    rw [attributeItem_of_plain hp]
    exact Quoted.scanItems_plain hq hb h rest

/-- Without control characters a value is read as its text. -/
theorem scanItems_attributeItems {t : Text} (h : ∀ p ∈ t, ¬ p.toNat < 0x20) (rest : Text) :
    Quoted.scanItems (attributeItems t ++ .char '"' :: rest) = .ok (t.map .plain, rest) := by
  unfold attributeItems
  induction t with
  | nil => rw [List.flatMap_nil, List.nil_append, Quoted.scanItems, List.map_nil]
  | cons p t ih =>
    obtain ⟨hp, ht⟩ := List.forall_mem_cons.1 h
    rw [List.flatMap_cons, List.append_assoc, scanItems_attributeItem hp, ih ht]
    rfl

/-- A value with a control character is no literal: the first one ends the reading. -/
theorem scanItems_attributeItems_control {t : Text} (h : ∃ p ∈ t, p.toNat < 0x20) (rest : Text) :
    Quoted.scanItems (attributeItems t ++ rest) = .error .controlCharacter := by
  unfold attributeItems
  induction t with
  | nil => simp at h
  | cons p t ih =>
    rw [List.flatMap_cons, List.append_assoc]
    by_cases hp : p.toNat < 0x20
    · have hmark : p.isEscapedMark = false := by
        refine Bool.eq_false_iff.2 fun hmark => ?_
        simp only [CodePoint.isEscapedMark, Bool.or_eq_true, beq_iff_eq] at hmark
        rcases hmark with rfl | rfl <;> exact absurd hp (by decide)
      obtain ⟨hq, hb⟩ := ne_of_not_isEscapedMark hmark
      rw [attributeItem_of_plain hmark, List.singleton_append, Quoted.scanItems, if_pos hp]
      all_goals grind
    · obtain ⟨q, hq, hcontrol⟩ := h
      rcases List.mem_cons.1 hq with rfl | hq
      · exact absurd hcontrol hp
      · rw [scanItems_attributeItem hp, ih ⟨q, hq, hcontrol⟩]
        rfl

theorem join_map_plain (t : Text) : Quoted.Item.join (t.map .plain) = t := by
  induction t with
  | nil => rfl
  | cons p t ih => rw [List.map_cons, Quoted.Item.join, ih]

/-- Where nothing is escaped, the value is the text. -/
theorem attributeItems_of_plain {t : Text} (h : ¬ ∃ p ∈ t, p.isEscapedMark) :
    attributeItems t = t := by
  unfold attributeItems
  induction t with
  | nil => rfl
  | cons p t ih =>
    rw [List.exists_mem_cons_iff, not_or] at h
    rw [List.flatMap_cons, attributeItem_of_plain (by simpa using h.1), ih h.2]
    rfl

/-- A value is longer than its text if something in it is escaped. -/
theorem attributeItems_ne {t : Text} (h : ∃ p ∈ t, p.isEscapedMark) : attributeItems t ≠ t := by
  have hle (t : Text) : t.length ≤ (attributeItems t).length := by
    unfold attributeItems
    induction t with
    | nil => exact Nat.le_refl 0
    | cons p t ih =>
      have hone : 1 ≤ (attributeItem p).length := by
        unfold attributeItem
        split <;> simp
      rw [List.flatMap_cons, List.length_append, List.length_cons]
      omega
  obtain ⟨p, hp, hmark⟩ := h
  obtain ⟨front, back, rfl⟩ := List.append_of_mem hp
  intro hsame
  have hlength := congrArg List.length hsame
  have hfront := hle front
  have hback := hle back
  simp only [attributeItems, List.flatMap_append, List.flatMap_cons, List.length_append,
    attributeItem_of_escaped hmark, List.length_cons, List.length_nil] at hlength hfront hback
  omega

/-- What a value is read as: its text, or its items as they are if it has both a control character
and something that is escaped. -/
theorem argument_attributeItems (t : Text) :
    argument (attributeItems t) = if t.MixesControl then attributeItems t else t := by
  by_cases hcontrol : ∃ p ∈ t, p.toNat < 0x20
  · have hread : argument (attributeItems t) = attributeItems t := by
      rw [argument, Quoted.decode?, Quoted.scan, scanItems_attributeItems_control hcontrol]
      rfl
    rw [hread]
    split
    · rfl
    · next hmixed => exact attributeItems_of_plain fun hmark => hmixed ⟨hcontrol, hmark⟩
  · have hplain : ∀ p ∈ t, ¬ p.toNat < 0x20 := fun p hp hlow => hcontrol ⟨p, hp, hlow⟩
    rw [if_neg fun hmixed => hcontrol hmixed.1, argument, Quoted.decode?, Quoted.scan,
      scanItems_attributeItems hplain []]
    exact join_map_plain t

theorem Quotation.value_ofValue (t : Text) :
    (ofValue t).value = if t.MixesControl then attributeItems t else t :=
  argument_attributeItems t

/-! ## Selectors with such a value -/

/-- A place for a value in a selector. -/
inductive Attribute where
  | name (role : RoleName)
  | byText (target : TextTarget)
  | testId (inAttribute : Bool)

namespace Attribute

/-- The form that has a value in this place. -/
def form (value : Quotation) (mark : Mark) : Attribute → Form
  | .name r => .role r (some (value, mark))
  | .byText target => .byText target value mark
  | .testId inAttribute => .testId inAttribute value mark

/-- The call for the elements whose value is a text. -/
def find (root : Expression) (t : Text) (mark : Mark) : Attribute → Expression
  | .name r =>
    Link.call root "get_by_role" r.text (("name", .text t) :: Link.exactKeyword mark.isExact)
  | .byText target => Link.call root target.method t (Link.exactKeyword mark.isExact)
  | .testId _ => Link.call root "get_by_test_id" t []

theorem apply_link_form (root : Expression) (value : Quotation) (mark : Mark) (place : Attribute) :
    (Selector.link (place.form value mark).text).apply root = place.find root value.value mark := by
  rw [Form.link_text, Form.apply_link]
  cases place <;> rfl

theorem find_inj {root : Expression} {t t' : Text} {mark : Mark} {place : Attribute} :
    place.find root t mark = place.find root t' mark ↔ t = t' := by
  cases place <;> simp [find, Link.call]

end Attribute

/-- A selector with a value comes to the call with its text, or with its items as they are if it
has both a control character and something that is escaped. -/
theorem apply_link_attribute (root : Expression) (place : Attribute) (mark : Mark) (n : Text) :
    (link (place.form (.ofValue n) mark).text).apply root =
      place.find root (if n.MixesControl then attributeItems n else n) mark := by
  rw [Attribute.apply_link_form, Quotation.value_ofValue]

/-- The text of a value is found again exactly if it does not have both. -/
theorem apply_link_attribute_iff (root : Expression) (place : Attribute) (mark : Mark) (n : Text) :
    (link (place.form (.ofValue n) mark).text).apply root = place.find root n mark ↔
      ¬ n.MixesControl := by
  rw [apply_link_attribute, Attribute.find_inj]
  constructor
  · intro h hmixed
    rw [if_pos hmixed] at h
    exact attributeItems_ne hmixed.2 h
  · exact fun h => if_neg h

/-- The name of a button that goes on behind a quote in a second line keeps its backslash. -/
theorem apply_link_quotedLine :
    (∃ place : Attribute, (place.form (.ofValue "a\"\nb") .inexact).text =
        "internal:role=button[name=\"a\\\"\nb\"i]" ∧
      place.find (.name "pg") "a\"\nb" .inexact =
        Link.call (.name "pg") "get_by_role" "button" [("name", .text "a\"\nb")]) ∧
    (link "internal:role=button[name=\"a\\\"\nb\"i]").apply (.name "pg") =
      Link.call (.name "pg") "get_by_role" "button" [("name", .text "a\\\"\nb")] ∧
    (link "internal:role=button[name=\"a\\\"\nb\"i]").apply (.name "pg") ≠
      Link.call (.name "pg") "get_by_role" "button" [("name", .text "a\"\nb")] := by
  have hlink : link "internal:role=button[name=\"a\\\"\nb\"i]" =
      .role "button" (some "a\\\"\nb") false [] := by decide +kernel
  refine ⟨⟨.name ⟨"button", by decide, by decide⟩, by decide +kernel, rfl⟩, ?_⟩
  rw [hlink]
  refine ⟨rfl, fun h => ?_⟩
  have hname : ("a\\\"\nb" : Text) = "a\"\nb" := by
    simpa [Link.apply, Link.call, Link.exactKeyword] using h
  exact absurd hname (by decide)

end Selector

end Playback
