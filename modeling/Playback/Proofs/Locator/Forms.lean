import Mathlib.Data.List.TakeWhile
import Playback.Locator.Selector
import Playback.Proofs.Code.Delimited
import Playback.Proofs.Text.Basic
import Playback.Proofs.Text.Quoted

/-!
# The forms of selectors

The selectors that become calls are those of a few forms, and they are read in only one way. Every
other selector, one that merely begins like a form or goes on behind it included, is used as it is.

* `Selector.AreItems`: the items of a quoted argument, one behind the other. `Selector.Quotation`,
  `Selector.Mark` and `Selector.RoleName` are the parts of forms.
* `Selector.Quotation.ofLiteral`: a literal is a quoted argument that stands for its text.
* `Selector.Form`: the forms with their parts. `Selector.Form.text` is the selector of a form,
  `Selector.Form.link` its link.
* `Selector.Form.text_injective`: a selector has a form in at most one way.
* `Selector.Form.link_text`, `Selector.link_of_other`: what selectors with a form and without one
  are read as.
-/

namespace Playback

namespace Selector

/-! ## Quoted arguments -/

/-- Items of a quoted argument, one behind the other: characters that are neither quotes nor
backslashes, and backslashes with any character behind them. -/
inductive AreItems : Text → Prop
  | nil : AreItems []
  | plain {p : CodePoint} {body : Text} (hq : p ≠ .char '"') (hb : p ≠ .char '\\')
    (h : AreItems body) : AreItems (p :: body)
  | escaped (p : CodePoint) {body : Text} (h : AreItems body) : AreItems (.char '\\' :: p :: body)

/-- A character that stands for itself in a quoted argument. -/
theorem quotedBody?_plain {p : CodePoint} (hq : p ≠ .char '"') (hb : p ≠ .char '\\')
    (rest : Text) :
    quotedBody? (p :: rest) = (quotedBody? rest).map fun (body, rest) => (p :: body, rest) := by
  rw [quotedBody?]
  all_goals grind

/-- A backslash and what it escapes. -/
theorem quotedBody?_pair (p : CodePoint) (rest : Text) :
    quotedBody? (.char '\\' :: p :: rest) =
      (quotedBody? rest).map fun (body, rest) => (.char '\\' :: p :: body, rest) := by
  rw [quotedBody?]

/-- What is read up to the closing quote is all of the items in front of it. -/
theorem quotedBody?_eq_some_iff {t body rest : Text} :
    quotedBody? t = some (body, rest) ↔ AreItems body ∧ t = body ++ .char '"' :: rest := by
  constructor
  · intro h
    induction t using quotedBody?.induct generalizing body with
    | case1 => cases h
    | case2 later =>
      rw [quotedBody?] at h
      cases h
      exact ⟨.nil, rfl⟩
    | case3 => cases h
    | case4 p later ih =>
      rw [quotedBody?_pair] at h
      obtain ⟨⟨body, rest⟩, hread, heq⟩ := Option.map_eq_some_iff.1 h
      cases heq
      obtain ⟨hitems, rfl⟩ := ih hread
      exact ⟨.escaped p hitems, rfl⟩
    | case5 p later hq hlast hb ih =>
      have hplain : p ≠ .char '\\' := by
        rintro rfl
        cases later with
        | nil => exact hlast rfl rfl
        | cons q later => exact hb q later rfl rfl
      rw [quotedBody?_plain hq hplain] at h
      obtain ⟨⟨body, rest⟩, hread, heq⟩ := Option.map_eq_some_iff.1 h
      cases heq
      obtain ⟨hitems, rfl⟩ := ih hread
      exact ⟨.plain hq hplain hitems, rfl⟩
  · rintro ⟨h, rfl⟩
    induction h with
    | nil => rw [List.nil_append, quotedBody?]
    | plain hq hb _ ih =>
      rw [List.cons_append, quotedBody?_plain hq hb, ih]
      rfl
    | escaped p _ ih =>
      rw [List.cons_append, List.cons_append, quotedBody?_pair, ih]
      rfl

/-- A quoted argument, given by its items. -/
structure Quotation where
  body : Text
  areItems : AreItems body

namespace Quotation

/-- The argument with its quotes. -/
def text (quotation : Quotation) : Text := .char '"' :: (quotation.body ++ [.char '"'])

/-- What the argument stands for. -/
def value (quotation : Quotation) : Text := argument quotation.body

theorem quoted?_eq_some_iff {t body rest : Text} :
    quoted? t = some (body, rest) ↔
      ∃ quotation : Quotation, quotation.body = body ∧ t = quotation.text ++ rest := by
  constructor
  · intro h
    unfold quoted? at h
    split at h
    · obtain ⟨hitems, rfl⟩ := quotedBody?_eq_some_iff.1 h
      exact ⟨⟨body, hitems⟩, rfl, by simp [text]⟩
    · cases h
  · rintro ⟨quotation, rfl, rfl⟩
    show quotedBody? (quotation.body ++ [CodePoint.char '"'] ++ rest) = _
    rw [List.append_assoc]
    exact quotedBody?_eq_some_iff.2 ⟨quotation.areItems, rfl⟩

/-- A quoted argument shows where it ends. -/
theorem text_append_inj {quotation other : Quotation} {rest rest' : Text}
    (h : quotation.text ++ rest = other.text ++ rest') : quotation = other ∧ rest = rest' := by
  have hread : quoted? (quotation.text ++ rest) = some (quotation.body, rest) :=
    quoted?_eq_some_iff.2 ⟨quotation, rfl, rfl⟩
  rw [h, quoted?_eq_some_iff.2 ⟨other, rfl, rfl⟩] at hread
  obtain ⟨hbody, hrest⟩ := Prod.mk.inj (Option.some.inj hread)
  cases quotation
  cases other
  cases hbody
  exact ⟨rfl, hrest.symm⟩

/-- A hexadecimal digit is neither a quote nor a backslash. -/
theorem hexDigit_ne {n : Nat} (h : n < 16) :
    Quoted.hexDigit n ≠ .char '"' ∧ Quoted.hexDigit n ≠ .char '\\' := by
  revert n
  decide

/-- What stands for a code point in a literal are items. -/
theorem areItems_escape_append (p : CodePoint) {body : Text} (h : AreItems body) :
    AreItems (Quoted.escape p ++ body) := by
  unfold Quoted.escape
  split
  iterate 7
    · exact .escaped _ h
  · next hq hb _ _ _ _ _ =>
    split
    · next hc =>
      obtain ⟨hq₁, hb₁⟩ := hexDigit_ne (n := p.toNat / 16) (by omega)
      obtain ⟨hq₂, hb₂⟩ := hexDigit_ne (n := p.toNat % 16) (by omega)
      exact .escaped _ (.plain (by decide) (by decide) (.plain (by decide) (by decide)
        (.plain hq₁ hb₁ (.plain hq₂ hb₂ h))))
    · exact .plain hq hb h

theorem areItems_escaped (t : Text) : AreItems (t.flatMap Quoted.escape) := by
  induction t with
  | nil => exact .nil
  | cons p t ih =>
    rw [List.flatMap_cons]
    exact areItems_escape_append p ih

/-- A literal is a quoted argument. -/
def ofLiteral (t : Text) : Quotation := ⟨t.flatMap Quoted.escape, areItems_escaped t⟩

/-- It stands for its text. -/
theorem value_ofLiteral (t : Text) : (ofLiteral t).value = t := by
  have hdecode : Quoted.decode? (Quoted.encode t) = some t := Quoted.decode?_encode t
  show (Quoted.decode? (Quoted.encode t)).getD _ = t
  rw [hdecode, Option.getD_some]

end Quotation

/-- The mark behind a quoted argument. -/
inductive Mark where
  | none
  | inexact
  | exact
  deriving DecidableEq

namespace Mark

/-- The mark as it is written. -/
def text : Mark → Text
  | .none => []
  | .inexact => "i"
  | .exact => "s"

/-- Does the mark ask for an exact match? -/
def isExact : Mark → Bool
  | .exact => true
  | _ => false

theorem text_injective : Function.Injective text := by
  intro mark other
  cases mark <;> cases other <;> decide

end Mark

/-- The mark behind a literal, and whether it asks for an exact match. -/
inductive MarksExact : Text → Bool → Prop
  | none : MarksExact [] false
  | inexact : MarksExact "i" false
  | exact : MarksExact "s" true

/-- What is behind a literal is a mark. -/
theorem MarksExact.exists_mark {t : Text} {exact : Bool} (h : MarksExact t exact) :
    ∃ mark : Mark, mark.text = t ∧ mark.isExact = exact := by
  cases h with
  | none => exact ⟨.none, rfl, rfl⟩
  | inexact => exact ⟨.inexact, rfl, rfl⟩
  | exact => exact ⟨.exact, rfl, rfl⟩

theorem exactFlag?_eq_some_iff {closing rest : Text} {exact : Bool} :
    exactFlag? closing rest = some exact ↔
      ∃ mark : Mark, rest = mark.text ++ closing ∧ mark.isExact = exact := by
  constructor
  · intro h
    unfold exactFlag? at h
    split at h
    · next hrest =>
      cases h
      rcases hrest with rfl | rfl
      · exact ⟨.none, rfl, rfl⟩
      · exact ⟨.inexact, rfl, rfl⟩
    · split at h
      · next hrest =>
        cases h
        exact ⟨.exact, hrest, rfl⟩
      · cases h
  · rintro ⟨mark, rfl, rfl⟩
    cases mark with
    | none => exact if_pos (.inl rfl)
    | inexact => exact if_pos (.inr rfl)
    | exact =>
      have hne : ¬ ((CodePoint.char 's' :: closing) = closing ∨
          CodePoint.char 's' :: closing = .char 'i' :: closing) := by
        simp
      exact (if_neg hne).trans (if_pos rfl)

/-- A quoted argument, its mark, and what closes the selector behind them. -/
def marked (quotation : Quotation) (mark : Mark) (closing : Text) : Text :=
  quotation.text ++ (mark.text ++ closing)

theorem flagged?_eq_some_iff {closing t content : Text} {exact : Bool} :
    flagged? closing t = some (content, exact) ↔ ∃ (quotation : Quotation) (mark : Mark),
      t = marked quotation mark closing ∧ quotation.value = content ∧ mark.isExact = exact := by
  simp only [flagged?, Option.bind_eq_bind, Option.bind_eq_some_iff, Option.pure_def,
    Option.some.injEq, Prod.exists, Quotation.quoted?_eq_some_iff, exactFlag?_eq_some_iff,
    Prod.mk.injEq]
  constructor
  · rintro ⟨_, _, ⟨quotation, rfl, rfl⟩, _, ⟨mark, rfl, rfl⟩, rfl, rfl⟩
    exact ⟨quotation, mark, rfl, rfl, rfl⟩
  · rintro ⟨quotation, mark, rfl, rfl, rfl⟩
    exact ⟨_, _, ⟨quotation, rfl, rfl⟩, _, ⟨mark, rfl, rfl⟩, rfl, rfl⟩

theorem marked_inj {quotation other : Quotation} {mark mark' : Mark} {closing : Text}
    (h : marked quotation mark closing = marked other mark' closing) :
    quotation = other ∧ mark = mark' := by
  obtain ⟨rfl, hmark⟩ := Quotation.text_append_inj h
  exact ⟨rfl, Mark.text_injective (List.append_cancel_right hmark)⟩

/-! ## Forms -/

/-- A role of letters and hyphens. -/
structure RoleName where
  text : Text
  ne_nil : text ≠ []
  isRoleCharacter : ∀ p ∈ text, isRoleCharacter p

/-- A role shows where it ends, if what is behind it does not go on with it. -/
theorem RoleName.append_inj {role other : RoleName} {rest rest' : Text}
    (hr : ∀ p ∈ rest.head?, Selector.isRoleCharacter p = false)
    (hr' : ∀ p ∈ rest'.head?, Selector.isRoleCharacter p = false)
    (h : role.text ++ rest = other.text ++ rest') : role = other ∧ rest = rest' := by
  obtain ⟨htext, hrest⟩ :=
    append_inj_of_class role.isRoleCharacter other.isRoleCharacter hr hr' h
  cases role
  cases other
  cases htext
  exact ⟨rfl, hrest⟩

end Selector

/-- How the selectors begin that find elements by a text. -/
def TextTarget.lead : TextTarget → Text
  | .text => "internal:text="
  | .label => "internal:label="
  | .placeholder => "internal:attr=[placeholder="
  | .altText => "internal:attr=[alt="
  | .title => "internal:attr=[title="

/-- How they end. -/
def TextTarget.closing : TextTarget → Text
  | .text | .label => []
  | .placeholder | .altText | .title => "]"

theorem TextTarget.lead_injective : Function.Injective lead := by
  intro target other
  cases target <;> cases other <;> simp [lead, Text.ofString]

/-- They begin otherwise than roles and test ids. -/
theorem TextTarget.lead_ne (target : TextTarget) :
    target.lead ≠ "internal:role=" ∧ target.lead ≠ "internal:testid=" := by
  cases target <;> simp [lead, Text.ofString]

theorem TextTarget.method_injective : Function.Injective method := by
  intro target other
  cases target <;> cases other <;> simp [method, Text.ofString]

/-- Texts have methods of their own. -/
theorem TextTarget.method_ne (target : TextTarget) : target.method ≠ "get_by_role" ∧
    target.method ≠ "get_by_test_id" ∧ target.method ≠ "locator" := by
  cases target <;> simp [method, Text.ofString]

namespace Selector

/-- The selectors that become calls, by their parts. -/
inductive Form where
  /-- A role, alone or with a name. -/
  | role (role : RoleName) (name : Option (Quotation × Mark))
  /-- A text by which elements are found. -/
  | byText (target : TextTarget) (content : Quotation) (mark : Mark)
  /-- A test id, inside the attribute that holds it or alone. -/
  | testId (inAttribute : Bool) (id : Quotation) (mark : Mark)

namespace Form

/-- The name behind a role, if it has one. -/
def namePart : Option (Quotation × Mark) → Text
  | none => []
  | some (name, mark) => "[name=" ++ marked name mark "]"

/-- How the selector of a form begins. -/
def lead : Form → Text
  | .role .. => "internal:role="
  | .byText target .. => target.lead
  | .testId .. => "internal:testid="

/-- What follows this beginning. -/
def rest : Form → Text
  | .role r name => r.text ++ namePart name
  | .byText target content mark => marked content mark target.closing
  | .testId false id mark => marked id mark []
  | .testId true id mark => "[data-testid=" ++ marked id mark "]"

/-- The selector of a form. -/
def text (form : Form) : Text := form.lead ++ form.rest

/-- The link that a form stands for. The mark of a test id has no meaning. -/
def link : Form → Link
  | .role r none => .role r.text none false []
  | .role r (some (name, mark)) => .role r.text (some name.value) mark.isExact []
  | .byText target content mark => .byText target content.value mark.isExact
  | .testId _ id _ => .testId id.value

/-- The mark of a form, if it has a place for one. -/
def mark? : Form → Option Mark
  | .role _ name => name.map Prod.snd
  | .byText _ _ mark | .testId _ _ mark => some mark

end Form

namespace Form

/-- A name does not go on with the role in front of it. -/
theorem not_isRoleCharacter_namePart (name : Option (Quotation × Mark)) :
    ∀ p ∈ (namePart name).head?, isRoleCharacter p = false := by
  cases name with
  | none => exact nofun
  | some name =>
    rintro p ⟨⟩
    decide

theorem namePart_injective : Function.Injective namePart := by
  intro name other h
  rcases name with _ | ⟨name, mark⟩ <;> rcases other with _ | ⟨other, mark'⟩
  · rfl
  · cases h
  · cases h
  · obtain ⟨rfl, rfl⟩ := marked_inj (List.append_cancel_left h)
    rfl

end Form

/-! ## What is read -/

theorem role?_eq_some_iff {t : Text} {result : Link} :
    role? t = some result ↔
      ∃ (r : RoleName) (name : Option (Quotation × Mark)),
        t = r.text ++ Form.namePart name ∧ result = (Form.role r name).link := by
  constructor
  · -- the name of the role is the longest beginning of its characters
    intro h
    have htext : t = t.takeWhile isRoleCharacter ++ t.dropWhile isRoleCharacter :=
      List.takeWhile_append_dropWhile.symm
    by_cases hempty : t.takeWhile isRoleCharacter = []
    · simp [role?, hempty] at h
    let r : RoleName := ⟨_, hempty, fun _ => List.mem_takeWhile_imp⟩
    have hsome : (t.takeWhile isRoleCharacter).isEmpty = false := List.isEmpty_eq_false_iff.2 hempty
    by_cases hrest : t.dropWhile isRoleCharacter = []
    · simp only [role?, hsome, hrest] at h
      cases h
      rw [hrest] at htext
      exact ⟨r, none, htext, rfl⟩
    · have hmore : (t.dropWhile isRoleCharacter).isEmpty = false :=
        List.isEmpty_eq_false_iff.2 hrest
      simp only [role?, hsome, hmore] at h
      obtain ⟨behind, hbehind, hread⟩ := Option.bind_eq_some_iff.1 h
      obtain ⟨⟨content, exact⟩, hflagged, hresult⟩ := Option.bind_eq_some_iff.1 hread
      obtain ⟨name, mark, rfl, rfl, rfl⟩ := flagged?_eq_some_iff.1 hflagged
      cases hresult
      rw [Text.after?_eq_some hbehind] at htext
      exact ⟨r, some (name, mark), htext, rfl⟩
  · rintro ⟨r, name, rfl, rfl⟩
    have htake : (r.text ++ Form.namePart name).takeWhile isRoleCharacter = r.text := by
      rw [List.takeWhile_append_of_pos r.isRoleCharacter]
      cases name <;> exact List.append_nil r.text
    have hdrop : (r.text ++ Form.namePart name).dropWhile isRoleCharacter =
        Form.namePart name := by
      rw [List.dropWhile_append_of_pos r.isRoleCharacter]
      cases name <;> rfl
    have hempty : r.text.isEmpty = false := List.isEmpty_eq_false_iff.2 r.ne_nil
    rcases name with _ | ⟨name, mark⟩
    · simp only [role?, htake, hdrop, hempty]
      rfl
    · have hread : flagged? "]" (marked name mark "]") = some (name.value, mark.isExact) :=
        flagged?_eq_some_iff.2 ⟨name, mark, rfl, rfl, rfl⟩
      simp only [role?, htake, hdrop, hempty]
      simp only [Form.namePart, Text.after?_append, Option.bind_eq_bind, Option.bind_some, hread]
      rfl

theorem byText?_eq_some_iff {target : TextTarget} {closing t : Text} {result : Link} :
    byText? target closing t = some result ↔ ∃ (content : Quotation) (mark : Mark),
      t = marked content mark closing ∧ result = .byText target content.value mark.isExact := by
  simp only [byText?, Option.map_eq_some_iff, Prod.exists, flagged?_eq_some_iff]
  constructor
  · rintro ⟨_, _, ⟨content, mark, rfl, rfl, rfl⟩, rfl⟩
    exact ⟨content, mark, rfl, rfl⟩
  · rintro ⟨content, mark, rfl, rfl⟩
    exact ⟨_, _, ⟨content, mark, rfl, rfl, rfl⟩, rfl⟩

theorem testId?_eq_some_iff {t : Text} {result : Link} :
    testId? t = some result ↔ ∃ (id : Quotation) (mark : Mark),
      (t = marked id mark [] ∨ t = "[data-testid=" ++ marked id mark "]") ∧
        result = .testId id.value := by
  constructor
  · intro h
    obtain ⟨⟨id, exact⟩, hfound, rfl⟩ := Option.map_eq_some_iff.1 h
    cases hafter : t.after? "[data-testid=" with
    | none =>
      rw [hafter] at hfound
      obtain ⟨quotation, mark, rfl, rfl, -⟩ := flagged?_eq_some_iff.1 hfound
      exact ⟨quotation, mark, .inl rfl, rfl⟩
    | some behind =>
      rw [hafter] at hfound
      obtain ⟨quotation, mark, rfl, rfl, -⟩ := flagged?_eq_some_iff.1 hfound
      exact ⟨quotation, mark, .inr (Text.after?_eq_some hafter), rfl⟩
  · rintro ⟨id, mark, rfl | rfl, rfl⟩
    · have hbare : (marked id mark []).after? "[data-testid=" = none := rfl
      have hread : flagged? [] (marked id mark []) = some (id.value, mark.isExact) :=
        flagged?_eq_some_iff.2 ⟨id, mark, rfl, rfl, rfl⟩
      rw [testId?, hbare, hread]
      rfl
    · have hread : flagged? "]" (marked id mark "]") = some (id.value, mark.isExact) :=
        flagged?_eq_some_iff.2 ⟨id, mark, rfl, rfl, rfl⟩
      rw [testId?, Text.after?_append]
      exact congrArg _ hread

/-- What the table of forms reads behind a beginning are the forms with this beginning. -/
theorem read_eq_some_iff {lead t : Text} {read : Text → Option Link} {result : Link}
    (hform : (lead, read) ∈ forms) :
    read t = some result ↔
      ∃ form : Form, form.lead = lead ∧ form.rest = t ∧ form.link = result := by
  have hbyText (target : TextTarget) :
      byText? target target.closing t = some result ↔
        ∃ form : Form, form.lead = target.lead ∧ form.rest = t ∧ form.link = result := by
    rw [byText?_eq_some_iff]
    constructor
    · rintro ⟨content, mark, rfl, rfl⟩
      exact ⟨.byText target content mark, rfl, rfl, rfl⟩
    · rintro ⟨form, hlead, rfl, rfl⟩
      cases form with
      | role r name => exact absurd hlead.symm target.lead_ne.1
      | byText other content mark =>
        cases TextTarget.lead_injective hlead
        exact ⟨content, mark, rfl, rfl⟩
      | testId inAttribute id mark => exact absurd hlead.symm target.lead_ne.2
  have hapart : ("internal:role=" : Text) ≠ "internal:testid=" := by decide
  -- one case for each row of the table, and in it the forms of the other leads are ruled out
  simp only [forms, List.mem_cons, Prod.mk.injEq, List.not_mem_nil, or_false] at hform
  rcases hform with ⟨rfl, rfl⟩ | ⟨rfl, rfl⟩ | ⟨rfl, rfl⟩ | ⟨rfl, rfl⟩ | ⟨rfl, rfl⟩ | ⟨rfl, rfl⟩ |
    ⟨rfl, rfl⟩
  · rw [role?_eq_some_iff]
    constructor
    · rintro ⟨r, name, rfl, rfl⟩
      exact ⟨.role r name, rfl, rfl, rfl⟩
    · rintro ⟨form, hlead, rfl, rfl⟩
      cases form with
      | role r name => exact ⟨r, name, rfl, rfl⟩
      | byText target content mark => exact absurd hlead target.lead_ne.1
      | testId inAttribute id mark => exact absurd hlead.symm hapart
  · exact hbyText .text
  · exact hbyText .label
  · rw [testId?_eq_some_iff]
    constructor
    · rintro ⟨id, mark, rfl | rfl, rfl⟩
      · exact ⟨.testId false id mark, rfl, rfl, rfl⟩
      · exact ⟨.testId true id mark, rfl, rfl, rfl⟩
    · rintro ⟨form, hlead, rfl, rfl⟩
      cases form with
      | role r name => exact absurd hlead hapart
      | byText target content mark => exact absurd hlead target.lead_ne.2
      | testId inAttribute id mark =>
        cases inAttribute
        · exact ⟨id, mark, .inl rfl, rfl⟩
        · exact ⟨id, mark, .inr rfl, rfl⟩
  · exact hbyText .placeholder
  · exact hbyText .altText
  · exact hbyText .title

/-- No form begins like another one, so that a selector has at most one of them. -/
theorem leads_pairwise : (forms.map Prod.fst).Pairwise fun a b => ¬ a <+: b ∧ ¬ b <+: a := by
  simp [forms, Text.ofString]

namespace Form

/-- The beginning of a form is one of the table. -/
theorem exists_mem_forms (form : Form) : ∃ read, (form.lead, read) ∈ forms := by
  cases form with
  | role r name => exact ⟨_, List.mem_of_getElem? (i := 0) rfl⟩
  | testId inAttribute id mark => exact ⟨_, List.mem_of_getElem? (i := 3) rfl⟩
  | byText target content mark =>
    cases target with
    | text => exact ⟨_, List.mem_of_getElem? (i := 1) rfl⟩
    | label => exact ⟨_, List.mem_of_getElem? (i := 2) rfl⟩
    | placeholder => exact ⟨_, List.mem_of_getElem? (i := 4) rfl⟩
    | altText => exact ⟨_, List.mem_of_getElem? (i := 5) rfl⟩
    | title => exact ⟨_, List.mem_of_getElem? (i := 6) rfl⟩

/-- The selector of a form is read as its link. -/
theorem link_text (form : Form) : Selector.link form.text = form.link := by
  obtain ⟨read, hform⟩ := form.exists_mem_forms
  have hread := (read_eq_some_iff hform).2 ⟨form, rfl, rfl, rfl⟩
  have hfound := Text.findSome?_after? (fun read t => read t) leads_pairwise hform hread
  exact congrArg (·.getD (.selector form.text)) hfound

/-- Forms with the same selector begin in the same way: no beginning begins like another one. -/
theorem lead_eq_of_text_eq {form other : Form} (h : form.text = other.text) :
    form.lead = other.lead := by
  have hmem (form : Form) : form.lead ∈ forms.map Prod.fst := by
    obtain ⟨read, hread⟩ := form.exists_mem_forms
    exact List.mem_map_of_mem hread
  have hapart : ∀ lead ∈ forms.map Prod.fst, ∀ other ∈ forms.map Prod.fst,
      lead <+: other → lead = other := by
    have hsymm : Std.Symm fun a b : Text => ¬ a <+: b ∧ ¬ b <+: a := ⟨fun _ _ h => h.symm⟩
    intro lead hlead other hother hprefix
    by_contra hne
    exact (leads_pairwise.forall hlead hother hne).1 hprefix
  have hprefix : form.lead <+: other.text := h ▸ List.prefix_append form.lead form.rest
  rcases List.prefix_or_prefix_of_prefix hprefix (List.prefix_append other.lead other.rest) with
    hp | hp
  · exact hapart _ (hmem form) _ (hmem other) hp
  · exact (hapart _ (hmem other) _ (hmem form) hp).symm

/-- A selector has a form in at most one way. -/
theorem text_injective : Function.Injective text := by
  intro form other h
  have hlead := lead_eq_of_text_eq h
  have hrest : form.rest = other.rest := by
    rw [text, text, hlead] at h
    exact List.append_cancel_left h
  have hapart : ("internal:role=" : Text) ≠ "internal:testid=" := by decide
  -- forms of two kinds differ in their leads
  cases form with
  | role r name =>
    cases other with
    | role r' name' =>
      obtain ⟨rfl, hname⟩ := RoleName.append_inj (not_isRoleCharacter_namePart name)
        (not_isRoleCharacter_namePart name') hrest
      rw [namePart_injective hname]
    | byText target content mark => exact absurd hlead.symm target.lead_ne.1
    | testId inAttribute id mark => exact absurd hlead hapart
  | byText target content mark =>
    cases other with
    | role r name => exact absurd hlead target.lead_ne.1
    | byText target' content' mark' =>
      cases TextTarget.lead_injective hlead
      obtain ⟨rfl, rfl⟩ := marked_inj hrest
      rfl
    | testId inAttribute id mark => exact absurd hlead target.lead_ne.2
  | testId inAttribute id mark =>
    cases other with
    | role r name => exact absurd hlead.symm hapart
    | byText target content mark => exact absurd hlead.symm target.lead_ne.2
    | testId inAttribute' id' mark' =>
      -- with the attribute there is a bracket where there is a quote without it
      have hquote {s t : Text} {c : Char} (hc : c ≠ '"') :
          (CodePoint.char '"' :: s) ≠ .char c :: t := by
        intro hsame
        exact hc (CodePoint.char.inj (List.cons_eq_cons.1 hsame).1).symm
      cases inAttribute <;> cases inAttribute'
      · obtain ⟨rfl, rfl⟩ := marked_inj hrest
        rfl
      · exact absurd hrest (hquote (c := '[') (by decide))
      · exact absurd hrest.symm (hquote (c := '[') (by decide))
      · obtain ⟨rfl, rfl⟩ := marked_inj (List.append_cancel_left hrest)
        rfl

end Form

/-- A selector without a form is used as it is. -/
theorem link_of_other {s : Text} (h : ∀ form : Form, form.text ≠ s) : link s = .selector s := by
  rw [link]
  generalize hfound : forms.findSome? _ = found
  cases found with
  | none => rfl
  | some result =>
    obtain ⟨_, ⟨lead, read⟩, _, hforms, hread, -⟩ := List.findSome?_eq_some_iff.1 hfound
    obtain ⟨rest, hafter, hrest⟩ := Option.bind_eq_some_iff.1 hread
    have hmem : (lead, read) ∈ forms := hforms ▸ List.mem_append_right _ List.mem_cons_self
    obtain ⟨form, rfl, rfl, -⟩ := (read_eq_some_iff hmem).1 hrest
    exact absurd (Text.after?_eq_some hafter).symm (h form)

end Selector

end Playback
