import Playback.Proofs.Locator.Forms
import Playback.Proofs.Locator.Target

/-!
# The notations of a link

One link can be described in several ways: as a role or by a single key, as a link of a chain with a
kind and a body, and as a selector.

* `IsFlag`: a member that is a flag, and whether it is set. One that is missing or `null` is not.
* `Description.IsGiven`: an object that describes a link of a chain and nothing behind it.
* `Link.Notes`: the notations of a link. `Link.Notes.ofTarget_eq`: each of them is read as the link.
* `Locator.ofTarget_eq_of_notes`: two notations of a link come to one expression.
-/

namespace Playback

open Json (Members)

/-- The member is a flag, and `flag` says whether it is set. -/
inductive IsFlag : Option Json → Bool → Prop
  | missing : IsFlag none false
  | null : IsFlag (some .null) false
  | given {value : Json} {flag : Bool} (h : value.readFlag = .valid flag) : IsFlag (some value) flag

/-- The kind of the links that find elements by a text. -/
def TextTarget.kind : TextTarget → Text
  | .text => "text"
  | .label => "label"
  | .placeholder => "placeholder"
  | .altText => "alt"
  | .title => "title"

/-- The single key of the links that find elements by a text. -/
def TextTarget.key : TextTarget → Text
  | .text => "text"
  | .label => "label"
  | .placeholder => "placeholder"
  | .altText => "altText"
  | .title => "title"

/-- The selector of the links that find elements by a text, which `argument` gives. -/
def TextTarget.selector (argument : Text) : TextTarget → Text
  | .text => "internal:text=" ++ argument
  | .label => "internal:label=" ++ argument
  | .placeholder => "internal:attr=[placeholder=" ++ argument ++ "]"
  | .altText => "internal:attr=[alt=" ++ argument ++ "]"
  | .title => "internal:attr=[title=" ++ argument ++ "]"

/-- The members describe a link of a chain by its kind, its body and its options, and no link behind
it. They are no other description, and their names are Unicode text. -/
structure Description.IsGiven (members : Members) (kind body : Text) (options : Members) :
    Prop where
  kind : members.get? "kind" = some (.text kind)
  body : members.get? "body" = some (.text body)
  options : members.get? "options" = some (.object options) ∨
    members.get? "options" = none ∧ options = []
  next : members.get? "next" = none
  role : members.get? "role" = none
  unicode : ∀ member ∈ members, member.1.isUnicode

/-- The options have a name or none, and a flag. The names of their members are Unicode text. -/
structure DescriptionOptions.AreGiven (options : Members) (name : Option Text) (exact : Bool) :
    Prop where
  name : options.get? "name" = name.map .text
  exact : IsFlag (options.get? "exact") exact
  unicode : ∀ member ∈ options, member.1.isUnicode

/-- The notations of a link: a selector and a description. Where the description decides, there may
be any selector. -/
inductive Link.Notes : Link → Option Text → Json → Prop
  /-- A role with a name. -/
  | role {members : Members} {r n : Text} {exact : Bool} (hr : r ≠ [])
    (hrole : members.get? "role" = some (.text r)) (hname : members.get? "name" = some (.text n))
    (hexact : IsFlag (members.get? "exact") exact) (selector : Option Text) :
    Notes (.role r (some n) exact []) selector (.object members)
  /-- A link of a chain with a role, and the name among its options. -/
  | roleOfChain {members options : Members} {r n : Text} {exact : Bool}
    (h : Description.IsGiven members "role" r options)
    (hoptions : DescriptionOptions.AreGiven options (some n) exact)
    (hattrs : options.get? "attrs" = none) (selector : Option Text) :
    Notes (.role r (some n) exact []) selector (.object members)
  /-- A link of a chain with a role, and the name among its attributes. -/
  | roleOfAttribute {members options item : Members} {r n : Text}
    (h : Description.IsGiven members "role" r options)
    (hoptions : DescriptionOptions.AreGiven options none false)
    (hexact : options.get? "exact" = none)
    (hattrs : options.get? "attrs" = some (.list [.object item]))
    (hname : item.get? "name" = some (.text "name"))
    (hvalue : item.get? "value" = some (.text n)) (selector : Option Text) :
    Notes (.role r (some n) false []) selector (.object members)
  /-- A selector with a role of letters and hyphens. -/
  | roleSelector {r n mark : Text} {exact : Bool} (hr : r ≠ [])
    (hrole : ∀ p ∈ r, p.isAsciiLetter ∨ p = .char '-') (hmark : Selector.MarksExact mark exact) :
    Notes (.role r (some n) exact [])
      (some ("internal:role=" ++ r ++ "[name=" ++ Quoted.encode n ++ mark ++ "]")) .null
  /-- A single key with a text. -/
  | textKey (target : TextTarget) (t : Text) (selector : Option Text) :
    Notes (.byText target t false) selector (.object [(target.key, .text t)])
  /-- A link of a chain with a text. -/
  | textOfChain {members options : Members} {target : TextTarget} {t : Text} {exact : Bool}
    (h : Description.IsGiven members target.kind t options)
    (hoptions : DescriptionOptions.AreGiven options none exact)
    (hattrs : options.get? "attrs" = none) (selector : Option Text) :
    Notes (.byText target t exact) selector (.object members)
  /-- A selector with a text. -/
  | textSelector (target : TextTarget) (t : Text) {mark : Text} {exact : Bool}
    (hmark : Selector.MarksExact mark exact) :
    Notes (.byText target t exact) (some (target.selector (Quoted.encode t ++ mark))) .null
  /-- A single key with a test id. -/
  | testIdKey (t : Text) (selector : Option Text) :
    Notes (.testId t) selector (.object [("testId", .text t)])
  /-- A link of a chain with a test id. A flag makes no difference. -/
  | testIdOfChain {members options : Members} {kind t : Text} {exact : Bool}
    (hkind : kind = ("testid" : Text) ∨ kind = ("test-id" : Text))
    (h : Description.IsGiven members kind t options)
    (hoptions : DescriptionOptions.AreGiven options none exact)
    (hattrs : options.get? "attrs" = none) (selector : Option Text) :
    Notes (.testId t) selector (.object members)
  /-- A selector with a test id. -/
  | testIdSelector (t : Text) {mark : Text} {exact : Bool}
    (hmark : Selector.MarksExact mark exact) :
    Notes (.testId t) (some ("internal:testid=" ++ Quoted.encode t ++ mark)) .null
  /-- A selector with a test id inside its attribute. -/
  | testIdAttribute (t : Text) {mark : Text} {exact : Bool}
    (hmark : Selector.MarksExact mark exact) :
    Notes (.testId t)
      (some ("internal:testid=[data-testid=" ++ Quoted.encode t ++ mark ++ "]")) .null
  /-- A single key with a selector. -/
  | selectorKey (t : Text) (selector : Option Text) :
    Notes (.selector t) selector (.object [("css", .text t)])
  /-- A link of a chain with a selector. A flag makes no difference. -/
  | selectorOfChain {members options : Members} {t : Text} {exact : Bool}
    (h : Description.IsGiven members "css" t options)
    (hoptions : DescriptionOptions.AreGiven options none exact)
    (hattrs : options.get? "attrs" = none) (selector : Option Text) :
    Notes (.selector t) selector (.object members)

/-- A flag is read as what it says; only one that is set asks for anything. -/
theorem IsFlag.exists_nullable {members : Members} {name : Text} {flag : Bool}
    (h : IsFlag (members.get? name) flag) :
    ∃ flag?, members.nullable { name := name } Json.readFlag = .valid flag? ∧
      (flag? == some true) = flag := by
  generalize hget : members.get? name = value? at h
  cases h with
  | missing => exact ⟨none, Json.Members.optional_of_missing hget, rfl⟩
  | null => exact ⟨none, Json.Members.optional_of_get? hget rfl, rfl⟩
  | @given value flag h =>
    refine ⟨some flag, Json.Members.optional_of_get? hget ?_, by cases flag <;> rfl⟩
    cases value with
    | null => cases h
    | bool | number | text | list | object =>
      rw [Json.readNullable, h]
      · rfl
      · simp

section Descriptions

variable {members options : Members} {kind body : Text} {name : Option Text} {exact : Bool}

/-- A role with a name. -/
theorem Locator.ofRole?_eq {r n : Text} (hrole : members.get? "role" = some (.text r))
    (hname : members.get? "name" = some (.text n)) (hexact : IsFlag (members.get? "exact") exact) :
    Locator.ofRole? members = some [.role r (some n) exact []] := by
  obtain ⟨flag?, hflag, rfl⟩ := hexact.exists_nullable
  have hr : members.required { name := "role" } Json.readText = .valid r :=
    Json.Members.required_of_get? hrole rfl
  have hn : members.nullable { name := "name" } Json.readText = .valid (some n) :=
    Json.Members.nullable_text hname
  rw [Locator.ofRole?, hr, hn, hflag]
  rfl

/-- Options are read as what they hold. -/
theorem DescriptionOptions.AreGiven.exists_read (h : AreGiven options name exact)
    {attributes : List Attribute}
    (hattrs : options.optional { name := "attrs" } []
      (Json.readList (Json.readPart "LocatorAttr" Attribute.read)) = .valid attributes) :
    ∃ flag?, read options = .valid ⟨name, flag?, attributes⟩ ∧ (flag? == some true) = exact ∧
      (options.get? "exact" = none → flag? = none) := by
  obtain ⟨flag?, hflag, hexact⟩ := h.exact.exists_nullable
  refine ⟨flag?, Json.Members.withUnicodeNames_eq_valid_iff.2 ⟨h.unicode, ?_⟩, hexact, ?_⟩
  · rw [Json.Members.nullable_text h.name, hflag, hattrs]
    rfl
  · intro hmissing
    have hnone : options.nullable { name := "exact" } Json.readFlag = .valid none :=
      Json.Members.optional_of_missing hmissing
    rw [hnone] at hflag
    cases hflag
    rfl

/-- Behind a link without a `next` there is no other one. -/
theorem Description.nextOf?_of_missing (h : members.get? "next" = none) :
    nextOf? members = some [] := by
  induction members with
  | nil => rw [nextOf?]
  | cons member members ih =>
    obtain ⟨key, value⟩ := member
    rw [Members.get?, List.lookup_cons] at h
    by_cases hkey : key = ("next" : Text)
    · rw [hkey, beq_self_eq_true] at h
      cases h
    · have hne : (("next" : Text) == key) = false := by simpa using Ne.symm hkey
      rw [hne] at h
      rw [nextOf?, if_neg hkey]
      exact ih h

/-- An object that describes one link is a chain of this link. -/
theorem Description.IsGiven.chain?_eq (h : IsGiven members kind body options)
    {o : DescriptionOptions} (ho : DescriptionOptions.read options = .valid o) :
    chain? (.object members) = some [⟨kind, body, o⟩] := by
  have hkind : members.required { name := "kind" } Json.readText = .valid kind :=
    Json.Members.required_of_get? h.kind rfl
  have hbody : members.required { name := "body" } Json.readText = .valid body :=
    Json.Members.required_of_get? h.body rfl
  have hoptions : members.optional { name := "options" } .absent
      (Json.readPart "LocatorOptions" DescriptionOptions.read) = .valid o := by
    rcases h.options with hget | ⟨hget, rfl⟩
    · exact Json.Members.optional_of_get? hget ho
    · cases ho
      exact Json.Members.optional_of_missing hget
  have hread : Description.read members = .valid ⟨kind, body, o⟩ := by
    refine Json.Members.withUnicodeNames_eq_valid_iff.2 ⟨h.unicode, ?_⟩
    rw [hkind, hbody, hoptions]
    rfl
  rw [chain?, hread, nextOf?_of_missing h.next]
  rfl

/-- The locator of such an object is its link. -/
theorem Description.IsGiven.described_eq (h : IsGiven members kind body options)
    {o : DescriptionOptions} (ho : DescriptionOptions.read options = .valid o) {link : Link}
    (hlink : link? ⟨kind, body, o⟩ = .ok (some link)) :
    Locator.described (.object members) = .ok (some [link]) := by
  have hrole : Locator.hasRole members = false := by
    rw [Locator.hasRole, h.role]
  have hboth : Locator.hasKindAndBody members = true := by
    rw [Locator.hasKindAndBody, h.kind, h.body]
    rfl
  rw [Locator.described, hrole, hboth, h.chain?_eq ho]
  show Locator.ofChain [_] = _
  rw [Locator.ofChain, hlink]
  rfl

theorem TextTarget.link?_kind (target : TextTarget) (t : Text) (o : DescriptionOptions) :
    Description.link? ⟨target.kind, t, o⟩ = .ok (some (.byText target t o.isExact)) := by
  cases target <;> rfl

end Descriptions

theorem TextTarget.selector_eq (target : TextTarget) (argument : Text) :
    target.selector argument = target.lead ++ (argument ++ target.closing) := by
  cases target <;> simp [selector, lead, closing]

/-- The selector of a text is read as its link. -/
theorem TextTarget.link_selector {mark : Text} {exact : Bool}
    (h : Selector.MarksExact mark exact) (target : TextTarget) (t : Text) :
    Selector.link (target.selector (Quoted.encode t ++ mark)) = .byText target t exact := by
  obtain ⟨mark, rfl, rfl⟩ := h.exists_mark
  have hread := Selector.Form.link_text (.byText target (.ofLiteral t) mark)
  rw [Selector.Form.link, Selector.Quotation.value_ofLiteral] at hread
  rw [selector_eq, List.append_assoc]
  exact hread

/-- Every notation of a link is read as the link, and nothing is logged. -/
theorem Link.Notes.ofTarget_eq {link : Link} {selector : Option Text} {description : Json}
    (h : link.Notes selector description) :
    Locator.ofTarget selector description = .ok ([link], []) := by
  cases h with
  -- descriptions by their keys alone are read before any kind is looked at
  | @role members r n exact hr hrole hname hexact =>
    refine Locator.ofTarget_of_locator ?_ selector
    have hlegacy : Locator.hasRole members = true := by
      rw [Locator.hasRole, hrole]
      simpa using hr
    rw [Locator.described, hlegacy, Locator.ofRole?_eq hrole hname hexact]
    rfl
  | roleOfChain h hoptions hattrs =>
    obtain ⟨flag?, hread, rfl, -⟩ :=
      hoptions.exists_read (Json.Members.optional_of_missing hattrs)
    exact Locator.ofTarget_of_locator (h.described_eq hread rfl) selector
  -- the name among the attributes takes the place of the one among the options
  | @roleOfAttribute members options item r n h hoptions hexact hattrs hname hvalue =>
    have hitem : Attribute.read item = .valid ⟨"name", .text n⟩ := by
      have hn : item.required { name := "name" } Json.readText = .valid "name" :=
        Json.Members.required_of_get? hname rfl
      have hv : item.optional { name := "value" } .null .valid = .valid (.text n) :=
        Json.Members.optional_of_get? hvalue rfl
      rw [Attribute.read, hn, hv]
      rfl
    have hitems : Json.readList (Json.readPart "LocatorAttr" Attribute.read)
        (.list [.object item]) = .valid [⟨"name", .text n⟩] := by
      show Checked.listFrom _ 0 [Json.object item] = _
      rw [Checked.listFrom, Json.readPart, hitem]
      rfl
    obtain ⟨flag?, hread, -, hnone⟩ :=
      hoptions.exists_read (Json.Members.optional_of_get? hattrs hitems)
    cases hnone hexact
    exact Locator.ofTarget_of_locator (h.described_eq hread rfl) selector
  -- selectors have a form, and a form is read back as its link
  | @roleSelector r n mark exact hr hrole hmark =>
    have hcharacter : ∀ p ∈ r, Selector.isRoleCharacter p := by
      intro p hp
      rw [Selector.isRoleCharacter]
      rcases hrole p hp with h | rfl
      · rw [h, Bool.true_or]
      · rfl
    obtain ⟨mark, rfl, rfl⟩ := hmark.exists_mark
    have hlink := Selector.Form.link_text (.role ⟨r, hr, hcharacter⟩ (some (.ofLiteral n, mark)))
    rw [Selector.Form.link, Selector.Quotation.value_ofLiteral] at hlink
    refine Locator.ofTarget_of_link ?_ (by simp)
    simp only [List.append_assoc]
    exact hlink
  | textKey target t =>
    exact Locator.ofTarget_of_locator (by cases target <;> rfl) selector
  | textOfChain h hoptions hattrs =>
    obtain ⟨flag?, hread, rfl, -⟩ :=
      hoptions.exists_read (Json.Members.optional_of_missing hattrs)
    exact Locator.ofTarget_of_locator
      (h.described_eq hread (TextTarget.link?_kind _ _ _)) selector
  | textSelector target t hmark =>
    exact Locator.ofTarget_of_link (TextTarget.link_selector hmark target t) (by simp)
  | testIdKey t => exact Locator.ofTarget_of_locator rfl selector
  | testIdOfChain hkind h hoptions hattrs =>
    obtain ⟨flag?, hread, -, -⟩ :=
      hoptions.exists_read (Json.Members.optional_of_missing hattrs)
    rcases hkind with rfl | rfl <;>
      exact Locator.ofTarget_of_locator (h.described_eq hread rfl) selector
  | testIdSelector t hmark =>
    obtain ⟨mark, rfl, -⟩ := hmark.exists_mark
    have hlink := Selector.Form.link_text (.testId false (.ofLiteral t) mark)
    rw [Selector.Form.link, Selector.Quotation.value_ofLiteral] at hlink
    refine Locator.ofTarget_of_link ?_ (by simp)
    rw [List.append_assoc, ← List.append_nil mark.text]
    exact hlink
  | testIdAttribute t hmark =>
    -- the attribute stands behind the lead of the form without it
    have hlead : ("internal:testid=[data-testid=" : Text) =
        "internal:testid=" ++ "[data-testid=" := rfl
    obtain ⟨mark, rfl, -⟩ := hmark.exists_mark
    have hlink := Selector.Form.link_text (.testId true (.ofLiteral t) mark)
    rw [Selector.Form.link, Selector.Quotation.value_ofLiteral] at hlink
    refine Locator.ofTarget_of_link ?_ (by simp)
    rw [hlead]
    simp only [List.append_assoc]
    exact hlink
  | selectorKey t => exact Locator.ofTarget_of_locator rfl selector
  | selectorOfChain h hoptions hattrs =>
    obtain ⟨flag?, hread, -, -⟩ :=
      hoptions.exists_read (Json.Members.optional_of_missing hattrs)
    exact Locator.ofTarget_of_locator (h.described_eq hread rfl) selector

namespace Locator

/-- Two notations of a link come to one locator, and from every root to one expression: the link
applied to the root. -/
theorem ofTarget_eq_of_notes {link : Link} {selector selector' : Option Text}
    {description description' : Json} (h : link.Notes selector description)
    (h' : link.Notes selector' description') : ∃ locator,
      ofTarget selector description = .ok (locator, []) ∧
      ofTarget selector' description' = .ok (locator, []) ∧
      ∀ root, locator.expression root = link.apply root :=
  ⟨[link], h.ofTarget_eq, h'.ofTarget_eq, fun _ => rfl⟩

/-- A name with a quote, a bracket, a backslash and a control character, among the options of a link
and in a selector. -/
theorem ofTarget_eq_quotedName :
    let options : Json := .object [("name", .text "\"]\\\x01"), ("exact", .bool true)]
    let members : Members := [("kind", .text "role"), ("body", .text "menu-item"),
      ("options", options)]
    let selector : Text := "internal:role=menu-item[name=\"\\\"]\\\\\\u0001\"s]"
    ∃ locator, ofTarget none (.object members) = .ok (locator, []) ∧
      ofTarget (some selector) .null = .ok (locator, []) ∧
      ∀ root, locator.expression root =
        Link.apply root (.role "menu-item" (some "\"]\\\x01") true []) := by
  intro options members selector
  have hoptions : DescriptionOptions.AreGiven
      [("name", .text "\"]\\\x01"), ("exact", .bool true)] (some "\"]\\\x01") true :=
    ⟨rfl, .given rfl, by decide⟩
  have hmembers : Description.IsGiven members "role" "menu-item"
      [("name", .text "\"]\\\x01"), ("exact", .bool true)] :=
    ⟨rfl, rfl, .inl rfl, rfl, rfl, by decide⟩
  have hselector : Link.Notes (.role "menu-item" (some "\"]\\\x01") true []) (some selector)
      .null := .roleSelector (by decide) (by decide) .exact
  exact ofTarget_eq_of_notes (.roleOfChain hmembers hoptions rfl none) hselector

end Locator

end Playback
