import Playback.Proofs.Locator.Chain
import Playback.Proofs.Locator.Forms

/-!
# Links that refine what was found

A position, `first` and `last` pick from the elements that the links in front of them find. Behind a
page or a frame alone there are no such elements, so a locator has to begin with another link.

* `Link.refines`: the links that pick. `findingMethods`: the methods that the other ones call.
* `Json.RefinesFirst`: a description of a chain with a locator that begins with such a link.
* `Locator.ofTarget_refines_iff`: these are the descriptions whose locators do.
* `Locator.code_finds_iff`: the code of a target calls a method that finds elements on its root
  exactly if its description is none of these, and every other link stands behind the first one and
  comes from a nested description.
-/

namespace Playback

/-- The link picks from what the links in front of it find. -/
def Link.refines : Link → Bool
  | .nth _ | .first | .last => true
  | .role .. | .byText .. | .testId _ | .selector _ => false

/-- The link finds elements, and asks for no states of theirs. -/
def Link.isPlain : Link → Bool
  | .role _ _ _ states => states.isEmpty
  | .byText .. | .testId _ | .selector _ => true
  | .nth _ | .first | .last => false

theorem Link.refines_of_isPlain {link : Link} (h : link.isPlain) : link.refines = false := by
  cases link with
  | role | byText | testId | selector => rfl
  | nth | first | last => cases h

/-- The kinds of the links that pick, in a description. -/
def Description.refiningKinds : List Text := ["nth", "first", "last"]

/-- The methods that find elements on a page or in a frame. -/
def findingMethods : List Text :=
  ["locator", "get_by_role", "get_by_text", "get_by_label", "get_by_placeholder", "get_by_test_id",
    "get_by_alt_text", "get_by_title"]

/-- The description is a chain with a locator, and the first link of it picks from what was found,
though nothing was. -/
def Json.RefinesFirst (description : Json) : Prop :=
  ∃ members d chain, description = .object members ∧ Locator.hasRole members = false ∧
    description.DescribesChain (d :: chain) ∧ d.kind ∈ Description.refiningKinds ∧
    ∀ link ∈ d :: chain, link.IsRecognised

/-- The link is described by an object that stands in another one as its `next`. -/
def Json.Nests (description : Json) (link : Link) : Prop :=
  ∃ d chain, description.DescribesChain (d :: chain) ∧
    ∃ nested ∈ chain, nested.link? = .ok (some link)

/-- A link picks from what was found exactly if its kind says so. -/
theorem Description.refines_iff_of_link? {d : Description} {link : Link}
    (h : d.link? = .ok (some link)) : link.refines = true ↔ d.kind ∈ refiningKinds := by
  have htarget : ∀ kind target, TextTarget.ofKind? kind = some target → kind ∉ refiningKinds := by
    intro kind target htarget
    have hmem := mem_of_lookup htarget
    simp only [List.mem_cons, Prod.mk.injEq, List.not_mem_nil, or_false] at hmem
    rcases hmem with ⟨rfl, -⟩ | ⟨rfl, -⟩ | ⟨rfl, -⟩ | ⟨rfl, -⟩ | ⟨rfl, -⟩ <;> decide
  -- the first four kinds of links find elements, the last three pick from them
  unfold link? at h
  split at h
  · next hkind =>
    obtain ⟨states, -, h⟩ := bind_eq_ok_iff.1 h
    cases h
    exact iff_of_false Bool.false_ne_true (by rw [hkind]; decide)
  split at h
  · next hkind =>
    cases h
    refine iff_of_false Bool.false_ne_true ?_
    rcases hkind with hkind | hkind <;> rw [hkind] <;> decide
  split at h
  · next target hfound =>
    cases h
    exact iff_of_false Bool.false_ne_true (htarget _ _ hfound)
  split at h
  · next hkind =>
    cases h
    refine iff_of_false Bool.false_ne_true ?_
    rcases hkind with hkind | hkind <;> rw [hkind] <;> decide
  split at h
  · next hkind =>
    obtain ⟨position, -, h⟩ := bind_eq_ok_iff.1 h
    cases h
    exact iff_of_true rfl (by rw [hkind.1]; decide)
  split at h
  · next hkind =>
    cases h
    exact iff_of_true rfl (by rw [hkind]; decide)
  split at h
  · next hkind =>
    cases h
    exact iff_of_true rfl (by rw [hkind]; decide)
  · cases h

/-- A selector of the recorder finds elements, and asks for no states. -/
theorem Selector.isPlain_link (raw : Text) : (link raw).isPlain := by
  by_cases hform : ∃ form : Form, form.text = raw
  · obtain ⟨form, rfl⟩ := hform
    rw [Form.link_text]
    cases form with
    | role role name => cases name <;> rfl
    | byText | testId => rfl
  · rw [link_of_other (not_exists.1 hform)]
    rfl

namespace Locator

section Targets

variable {selector : Option Text} {description : Json} {locator : Locator}
  {found : Option Locator} {log : Log}

/-- A description with a locator is a chain whose links it consists of, or has one link, which
finds elements and asks for no states. -/
theorem described_cases (h : described description = .ok (some locator)) :
    (∃ members chain, description = .object members ∧ hasRole members = false ∧
      description.DescribesChain chain ∧
        List.Forall₂ (fun d link => d.link? = .ok (some link)) chain locator) ∨
      ∃ link, locator = [link] ∧ link.isPlain := by
  have hkeys : ∀ entry ∈ singleKeys, ∀ value, (entry.2 value).isPlain := by
    intro entry hentry value
    simp only [singleKeys, List.mem_cons, List.not_mem_nil, or_false] at hentry
    rcases hentry with rfl | rfl | rfl | rfl | rfl | rfl | rfl <;> rfl
  cases description with
  | object members =>
    rw [described_object] at h
    -- a role by its key, a chain, or a single key
    split at h
    · obtain ⟨link, hlink, rfl⟩ := Option.map_eq_some_iff.1 (Except.ok.inj h)
      rw [Checked.value?_eq_some_iff] at hlink
      obtain ⟨_, _, hexact, -, rfl⟩ := Checked.seq_eq_valid_iff.1 hlink
      obtain ⟨_, _, hname, -, rfl⟩ := Checked.seq_eq_valid_iff.1 hexact
      obtain ⟨_, -, rfl⟩ := Checked.map_eq_valid_iff.1 hname
      exact .inr ⟨_, rfl, rfl⟩
    · next hrole =>
      split at h
      · cases hchain : Description.chain? (.object members) with
        | none =>
          rw [hchain] at h
          cases h
        | some chain =>
          rw [hchain] at h
          exact .inl ⟨members, chain, rfl, by simpa using hrole,
            Description.chain?_eq_some_iff.1 hchain, ofChain_eq_some_iff.1 h⟩
      · obtain ⟨⟨key, link⟩, hkey, hfound⟩ :=
          List.exists_of_findSome?_eq_some (Except.ok.inj h)
        dsimp only at hfound
        split at hfound
        · cases hfound
          exact .inr ⟨_, rfl, hkeys _ hkey _⟩
        · cases hfound
  | text raw =>
    unfold described at h
    dsimp only at h
    split at h <;> cases h
    exact .inr ⟨_, rfl, rfl⟩
  | null | bool | number | list => cases h

/-- A target that comes to a locator does so in one of the ways there are. -/
theorem resolves_of_ofTarget (h : ofTarget selector description = .ok (locator, log)) :
    Resolves selector description locator := by
  have hdescribed : ∃ found, described description = .ok found := by
    unfold ofTarget at h
    split at h
    · next hnull =>
      cases description with
      | null => exact ⟨none, rfl⟩
      | bool | number | text | list | object => cases hnull
    · obtain ⟨found, hfound, -⟩ := bind_eq_ok_iff.1 h
      exact ⟨found, hfound⟩
  obtain ⟨other, log', hok, hresolves⟩ :=
    (exists_resolves_iff selector description).2 (exists_described_iff.1 hdescribed)
  cases h.symm.trans hok
  exact hresolves

/-- A chain that begins with a link that picks has a locator that begins with it. -/
theorem exists_of_refinesFirst (hdescription : description.RefinesFirst)
    (h : described description = .ok found) : ∃ lead rest, found = some (lead :: rest) ∧
      lead.refines := by
  obtain ⟨members, d, chain, rfl, hrole, hchain, hkind, hall⟩ := hdescription
  rw [described_of_describesChain hrole hchain] at h
  cases found with
  | none =>
    obtain ⟨link, hlink, hnot⟩ := (ofChain_eq_none_iff h).1 rfl
    exact absurd (hall link hlink) hnot
  | some locator =>
    cases ofChain_eq_some_iff.1 h with
    | cons hfirst _ =>
      exact ⟨_, _, rfl, (Description.refines_iff_of_link? hfirst).2 hkind⟩

/-- The locator of a target begins with a link that picks exactly if its description is a chain that
does. -/
theorem ofTarget_refines_iff {lead : Link} {rest : Locator}
    (h : ofTarget selector description = .ok (lead :: rest, log)) :
    lead.refines = true ↔ description.RefinesFirst := by
  have hother (hfirst : lead.refines = false) (hnone : described description = .ok none) :
      lead.refines = true ↔ description.RefinesFirst := by
    refine iff_of_false (by rw [hfirst]; exact Bool.false_ne_true) fun hdescription => ?_
    obtain ⟨_, _, hsome, -⟩ := exists_of_refinesFirst hdescription hnone
    cases hsome
  cases resolves_of_ofTarget h with
  | described hsome =>
    constructor
    · intro hfirst
      rcases described_cases hsome with ⟨members, chain, rfl, hrole, hchain, hlinks⟩ |
        ⟨link, hlink, hplain⟩
      · have hall := forall_left_of_forall₂ hlinks fun d link hlink =>
          Description.isRecognised_of_link? hlink
        cases hlinks with
        | cons hd _ =>
          exact ⟨members, _, _, rfl, hrole, hchain,
            (Description.refines_iff_of_link? hd).1 hfirst, hall⟩
      · cases hlink
        rw [Link.refines_of_isPlain hplain] at hfirst
        cases hfirst
    · intro hdescription
      obtain ⟨_, _, hfound, hrefines⟩ := exists_of_refinesFirst hdescription hsome
      cases hfound
      exact hrefines
  | selector hnone => exact hother (Link.refines_of_isPlain (Selector.isPlain_link _)) hnone
  | body hnone | nothing hnone => exact hother rfl hnone

/-- Every link behind the first one comes from a nested description. -/
theorem nests_of_ofTarget {lead : Link} {rest : Locator}
    (h : ofTarget selector description = .ok (lead :: rest, log)) :
    ∀ link ∈ rest, description.Nests link := by
  have hsingle {link : Link} (hlink : lead :: rest = [link]) :
      ∀ link ∈ rest, description.Nests link := by
    cases hlink
    exact List.forall_mem_nil _
  cases resolves_of_ofTarget h with
  | described hsome =>
    rcases described_cases hsome with ⟨members, chain, -, -, hchain, hlinks⟩ | ⟨link, hlink, -⟩
    · cases hlinks with
      | @cons d _ chain _ _ hrest =>
        intro link hmem
        obtain ⟨nested, hnested, hread⟩ := exists_left_of_forall₂ hrest hmem
        exact ⟨d, chain, hchain, nested, hnested, hread⟩
    · exact hsingle hlink
  | selector | body | nothing => exact hsingle rfl

end Targets

end Locator

/-! ## The code of a target -/

/-- The code calls a method that finds elements on what stands in front of it. -/
def Text.BeginsByFinding (t : Text) : Prop :=
  ∃ method ∈ findingMethods, ∃ behind, t = "." ++ method ++ "(" ++ behind

/-- The links that pick are those that call no such method. -/
theorem Link.name_mem_findingMethods_iff (link : Link) :
    (Step.link link).kind.name ∈ findingMethods ↔ link.refines = false := by
  have hnames : ∀ kind ∈ StepKind.all, kind.name ∈ findingMethods ↔
      kind ∉ [StepKind.intoFrame, .nth, .first, .last] := by decide +kernel
  rw [hnames _ (StepKind.mem_all _)]
  cases link <;> simp [Step.kind, refines]

theorem Link.beginsByFinding_written_iff (link : Link) {rest : Text} (hrest : rest.EndsName) :
    Text.BeginsByFinding ((Step.link link).written ++ rest) ↔ link.refines = false := by
  rw [← link.name_mem_findingMethods_iff]
  constructor
  · rintro ⟨method, hmethod, behind, h⟩
    have hnames : ∀ method ∈ findingMethods, method.IsName := by decide
    have hbracket : Text.EndsName (.char '(' :: behind) := Text.endsName_cons (by decide) _
    simp only [Step.written, List.cons_append, List.append_assoc] at h
    obtain ⟨hname, -⟩ := (Step.link link).kind.isName_name.append_inj (hnames method hmethod)
      ((Step.link link).endsName_arguments hrest) hbracket (List.cons.inj h).2
    rwa [hname]
  · intro hname
    have hcall : ∃ behind, (Step.link link).arguments = .char '(' :: behind := by
      cases link with
      | first | last => exact absurd hname (by decide)
      | role | byText | testId | selector | nth => exact ⟨_, rfl⟩
    obtain ⟨behind, hbehind⟩ := hcall
    refine ⟨_, hname, behind ++ rest, ?_⟩
    rw [Step.written, hbehind]
    simp [Text.ofString]

namespace Locator

/-- The code of a target calls a method that finds elements on the page or frame exactly if the
description does not begin with a link that picks. All links that pick behind the first one come
from nested descriptions. -/
theorem code_finds_iff {root : Expression} {selector : Option Text} {description : Json} {t : Text}
    (h : code root selector description = .ok t) : ∃ lead rest,
      t = root.print ++ ((lead :: rest).flatMap fun link => (Step.link link).written) ∧
      (lead.refines = true ↔ description.RefinesFirst) ∧ (∀ link ∈ rest, description.Nests link) ∧
      ((∃ behind, t = root.print ++ behind ∧ behind.BeginsByFinding) ↔
        ¬ description.RefinesFirst) := by
  have hresult : ∃ locator log, ofTarget selector description = .ok (locator, log) ∧
      t = (locator.expression root).print := by
    unfold code at h
    cases htarget : ofTarget selector description with
    | error fault =>
      rw [htarget] at h
      cases h
    | ok result =>
      rw [htarget] at h
      exact ⟨_, _, rfl, (Except.ok.inj h).symm⟩
  obtain ⟨locator, log, htarget, rfl⟩ := hresult
  obtain ⟨lead, rest, rfl⟩ := List.exists_cons_of_ne_nil (ne_nil_of_ofTarget htarget)
  have hlead := ofTarget_refines_iff htarget
  have hends : Text.EndsName (rest.flatMap fun link => (Step.link link).written) := by
    rw [← List.flatMap_map Step.link]
    simpa using Step.endsName_written (rest.map Step.link) Text.endsName_nil
  refine ⟨lead, rest, print_expression_eq root _, hlead, nests_of_ofTarget htarget, ?_⟩
  rw [← hlead, Bool.not_eq_true, ← lead.beginsByFinding_written_iff hends]
  constructor
  · rintro ⟨behind, hbehind, hfinds⟩
    rw [print_expression_eq, List.append_cancel_left_eq, List.flatMap_cons] at hbehind
    rwa [hbehind]
  · exact fun hfinds => ⟨_, print_expression_eq root _, hfinds⟩

/-- The second row of a table in a frame: the code begins with the row, and the position stands
behind it. -/
theorem code_finds_iff_secondRow :
    let position : Json := .object [("kind", .text "nth"), ("body", .text "1")]
    let description : Json :=
      .object [("kind", .text "role"), ("body", .text "row"), ("next", position)]
    let root := (Expression.name "pg").inFrames ["#main"]
    code root none description = .ok (root.print ++ ".get_by_role(\"row\").nth(1)") ∧
      ∃ lead rest, (lead :: rest).flatMap (fun link => (Step.link link).written) =
          ".get_by_role(\"row\").nth(1)" ∧
        lead.refines = false ∧ ∀ link ∈ rest, description.Nests link := by
  intro position description root
  have hcode : code root none description =
      .ok (root.print ++ ".get_by_role(\"row\").nth(1)") :=
    toOption_eq_some_iff.1 (by decide +kernel)
  obtain ⟨lead, rest, hlinks, hlead, hnests, hfinds⟩ := code_finds_iff hcode
  have hrow : ¬ description.RefinesFirst :=
    hfinds.1 ⟨_, rfl, "get_by_role", by decide, "\"row\").nth(1)", rfl⟩
  rw [← hlead, Bool.not_eq_true] at hrow
  exact ⟨hcode, lead, rest, (List.append_cancel_left hlinks).symm, hrow, hnests⟩

/-- A description of a page's first element is taken as it is, though a page has no `first`. -/
theorem code_firstOfPage :
    let description : Json := .object [("kind", .text "first"), ("body", .text "a")]
    code (.name "pg") none description = .ok "pg.first" ∧
      ¬ ∃ behind, ("pg.first" : Text) = (Expression.name "pg").print ++ behind ∧
        behind.BeginsByFinding := by
  intro description
  refine ⟨toOption_eq_some_iff.1 (by decide +kernel), ?_⟩
  rintro ⟨behind, hbehind, hfinds⟩
  have hsame : ("pg" : Text) ++ ((Step.link .first).written ++ []) = ("pg" : Text) ++ behind :=
    hbehind
  have hfirst := (List.append_cancel_left hsame).symm
  rw [hfirst, Link.beginsByFinding_written_iff _ Text.endsName_nil] at hfinds
  cases hfinds

end Locator

end Playback
