import Playback.Proofs.Locator.Forms

/-!
# What selectors come to

* `Selector.ComesTo`: the call that a selector comes to on a page or a frame, by its form.
* `Selector.Form.apply_link`: the call of a form, by its method and its arguments.
* `Selector.apply_link_eq_call`: a call of a selector is that of its form, or has the selector as it
  is.
* `Selector.comesTo_apply`: every selector comes to the call of its form, and one without a form is
  used as it is.
-/

namespace Playback

namespace Selector

section Calls

open Link (call)

/-- What a selector comes to on a page or a frame, with one field for each kind of call. -/
structure ComesTo (root : Expression) (s : Text) (found : Expression) : Prop where
  /-- The form of the selector gives the call, and it has no other one. -/
  of_form : ∀ form : Form, form.text = s →
    found = form.link.apply root ∧ ∀ other : Form, other.text = s → other = form
  /-- Without a form it is used as it is, and only then. -/
  verbatim : found = call root "locator" s [] ↔ ∀ form : Form, form.text ≠ s
  /-- A role without a name. -/
  role : (∃ r, found = call root "get_by_role" r []) ↔ ∃ r, (Form.role r none).text = s
  /-- A role with a name. -/
  named : (∃ r n keywords, found = call root "get_by_role" r (("name", n) :: keywords)) ↔
    ∃ r name, (Form.role r (some name)).text = s
  byText : ∀ target : TextTarget, (∃ content keywords, found = call root target.method content
    keywords) ↔ ∃ content mark, (Form.byText target content mark).text = s
  testId : (∃ id keywords, found = call root "get_by_test_id" id keywords) ↔
    ∃ inAttribute id mark, (Form.testId inAttribute id mark).text = s
  /-- An exact match is asked for by the mark for it, other than that of a test id. -/
  exact : ∀ method content keywords, found = call root method content keywords →
    ((("exact" : Text), Expression.bool true) ∈ keywords ↔
      method ≠ "get_by_test_id" ∧ ∃ form : Form, form.text = s ∧ form.mark? = some .exact)

namespace Form

/-- The method of a form's call. -/
def method : Form → Text
  | .role .. => "get_by_role"
  | .byText target .. => target.method
  | .testId .. => "get_by_test_id"

/-- The first argument of a form's call. -/
def content : Form → Text
  | .role r _ => r.text
  | .byText _ content _ => content.value
  | .testId _ id _ => id.value

/-- The arguments of a form's call that have a name. -/
def keywords : Form → List (Text × Expression)
  | .role _ none => []
  | .role _ (some (name, mark)) => ("name", .text name.value) :: Link.exactKeyword mark.isExact
  | .byText _ _ mark => Link.exactKeyword mark.isExact
  | .testId .. => []

theorem apply_link (root : Expression) (form : Form) :
    form.link.apply root = call root form.method form.content form.keywords := by
  cases form with
  | role r name => rcases name with _ | ⟨name, mark⟩ <;> simp [link, Link.apply, method, content,
      keywords, Link.exactKeyword]
  | byText target content mark => rfl
  | testId inAttribute id mark => rfl

theorem method_eq_role_iff (form : Form) :
    form.method = "get_by_role" ↔ ∃ r name, form = .role r name := by
  cases form with
  | role r name => simp [method]
  | byText target content mark => simp [method, target.method_ne]
  | testId inAttribute id mark => simp [method, Text.ofString]

theorem method_eq_testId_iff (form : Form) :
    form.method = "get_by_test_id" ↔ ∃ inAttribute id mark, form = .testId inAttribute id mark := by
  cases form with
  | role r name => simp [method, Text.ofString]
  | byText target content mark => simp [method, target.method_ne]
  | testId inAttribute id mark => simp [method]

theorem method_eq_byText_iff (target : TextTarget) (form : Form) :
    form.method = target.method ↔ ∃ content mark, form = .byText target content mark := by
  cases form with
  | role r name => simp [method, target.method_ne.1.symm]
  | byText target' content mark => simp [method, TextTarget.method_injective.eq_iff]
  | testId inAttribute id mark => simp [method, target.method_ne.2.1.symm]

theorem method_ne_selector (form : Form) : form.method ≠ "locator" := by
  cases form with
  | role r name => simp [method, Text.ofString]
  | byText target content mark => simp [method, target.method_ne]
  | testId inAttribute id mark => simp [method, Text.ofString]

/-- The mark of a form asks for an exact match, unless it is that of a test id. -/
theorem exact_mem_keywords_iff (form : Form) :
    (("exact" : Text), Expression.bool true) ∈ form.keywords ↔
      form.method ≠ "get_by_test_id" ∧ form.mark? = some .exact := by
  have hmark (mark : Mark) : (("exact" : Text), Expression.bool true) ∈
      Link.exactKeyword mark.isExact ↔ mark = .exact := by
    cases mark <;> simp [Link.exactKeyword, Mark.isExact]
  cases form with
  | role r name =>
    have hmethod : ("get_by_role" : Text) ≠ "get_by_test_id" := by decide
    rcases name with _ | ⟨name, mark⟩ <;> simp [keywords, mark?, method, hmethod, hmark]
  | byText target content mark =>
    simp [keywords, mark?, method, target.method_ne, hmark]
  | testId inAttribute id mark => simp [keywords, method]

end Form

theorem call_inj {root : Expression} {method method' content content' : Text}
    {keywords keywords' : List (Text × Expression)} :
    call root method content keywords = call root method' content' keywords' ↔
      method = method' ∧ content = content' ∧ keywords = keywords' := by
  simp [call]

/-- A call of a selector is that of its form, or it has the selector as it is. -/
theorem apply_link_eq_call {root : Expression} {s method content : Text}
    {keywords : List (Text × Expression)}
    (h : (link s).apply root = call root method content keywords) :
    (∃ form : Form, form.text = s ∧ form.method = method ∧ form.keywords = keywords) ∨
      (∀ form : Form, form.text ≠ s) ∧ method = "locator" ∧ keywords = [] := by
  by_cases hsome : ∃ form : Form, form.text = s
  · obtain ⟨form, rfl⟩ := hsome
    rw [form.link_text, form.apply_link, call_inj] at h
    exact .inl ⟨form, rfl, h.1, h.2.2⟩
  · have hnone : ∀ form : Form, form.text ≠ s := fun form htext => hsome ⟨form, htext⟩
    rw [link_of_other hnone] at h
    obtain ⟨hmethod, -, hkeywords⟩ := call_inj.1 h
    exact .inr ⟨hnone, hmethod.symm, hkeywords.symm⟩

/-- What selectors with and without a form are read as says what each of them comes to. -/
theorem comesTo_apply (root : Expression) (s : Text) :
    ComesTo root s ((link s).apply root) := by
  have hform (form : Form) (h : form.text = s) : (link s).apply root = form.link.apply root := by
    rw [← h, form.link_text]
  have htestId : ("locator" : Text) ≠ "get_by_test_id" := by decide
  have hrole : ("locator" : Text) ≠ "get_by_role" := by decide
  constructor
  case of_form =>
    intro form htext
    exact ⟨hform form htext, fun other hother => Form.text_injective (hother.trans htext.symm)⟩
  -- each kind of call shows whether its selector has a form, and which
  case verbatim =>
    constructor
    · intro h
      rcases apply_link_eq_call h with ⟨form, -, hmethod, -⟩ | ⟨hnone, -⟩
      · exact absurd hmethod form.method_ne_selector
      · exact hnone
    · intro hnone
      rw [link_of_other hnone]
      rfl
  case role =>
    constructor
    · rintro ⟨r, h⟩
      rcases apply_link_eq_call h with ⟨form, htext, hmethod, hkeywords⟩ | ⟨-, hmethod, -⟩
      · -- a name would be among the keywords
        obtain ⟨r, name, rfl⟩ := form.method_eq_role_iff.1 hmethod
        cases name with
        | none => exact ⟨r, htext⟩
        | some name => cases hkeywords
      · exact absurd hmethod.symm hrole
    · rintro ⟨r, htext⟩
      exact ⟨r.text, (hform _ htext).trans (Form.apply_link root _)⟩
  case named =>
    constructor
    · rintro ⟨r, n, keywords, h⟩
      rcases apply_link_eq_call h with ⟨form, htext, hmethod, hkeywords⟩ | ⟨-, hmethod, -⟩
      · obtain ⟨r, name, rfl⟩ := form.method_eq_role_iff.1 hmethod
        cases name with
        | none => cases hkeywords
        | some name => exact ⟨r, name, htext⟩
      · exact absurd hmethod.symm hrole
    · rintro ⟨r, ⟨name, mark⟩, htext⟩
      exact ⟨r.text, _, _, (hform _ htext).trans (Form.apply_link root _)⟩
  case byText =>
    intro target
    constructor
    · rintro ⟨content, keywords, h⟩
      rcases apply_link_eq_call h with ⟨form, htext, hmethod, -⟩ | ⟨-, hmethod, -⟩
      · obtain ⟨content, mark, rfl⟩ := (form.method_eq_byText_iff target).1 hmethod
        exact ⟨content, mark, htext⟩
      · exact absurd hmethod target.method_ne.2.2
    · rintro ⟨content, mark, htext⟩
      exact ⟨content.value, _, (hform _ htext).trans (Form.apply_link root _)⟩
  case testId =>
    constructor
    · rintro ⟨id, keywords, h⟩
      rcases apply_link_eq_call h with ⟨form, htext, hmethod, -⟩ | ⟨-, hmethod, -⟩
      · obtain ⟨inAttribute, id, mark, rfl⟩ := form.method_eq_testId_iff.1 hmethod
        exact ⟨inAttribute, id, mark, htext⟩
      · exact absurd hmethod.symm htestId
    · rintro ⟨inAttribute, id, mark, htext⟩
      exact ⟨id.value, _, (hform _ htext).trans (Form.apply_link root _)⟩
  case exact =>
    intro method content keywords h
    rcases apply_link_eq_call h with ⟨form, htext, rfl, rfl⟩ | ⟨hnone, rfl, rfl⟩
    · -- no other form has this selector, so the mark is that of the form
      rw [form.exact_mem_keywords_iff]
      refine and_congr_right fun _ => ⟨fun hmark => ⟨form, htext, hmark⟩, ?_⟩
      rintro ⟨other, hother, hmark⟩
      rwa [Form.text_injective (hother.trans htext.symm)] at hmark
    · refine iff_of_false List.not_mem_nil ?_
      rintro ⟨-, form, htext, -⟩
      exact hnone form htext

/-- A chain that begins like a form is used as it is. -/
example : link "internal:role=button[name=\"a\"i] >> nth=1" =
    .selector "internal:role=button[name=\"a\"i] >> nth=1" := by
  decide +kernel

end Calls

end Selector

end Playback
