import Playback.Proofs.Locator.Rearranged
import Playback.Proofs.Locator.Steps
import Playback.Proofs.Locator.Target

/-!
# Chains of links

A description of a chain is read all or not at all: it has a locator exactly if each of its links
has one, and the code of the locator is that of the links, one behind the other.

* `Json.DescribesChain`: the links that a value describes, one for itself and one for each
  description nested in it.
* `Description.IsRecognised`: a link of a known kind; a position has to be a whole number.
* `Description.suffix`: the code of a link, which stands behind that of the links in front of it.
* `Locator.code`: the code of a target.
* `Locator.ofChain_eq_some_iff`, `Locator.ofChain_eq_none_iff`: what a chain comes to.
* `Locator.chains_compose`: the code of a target stands behind its root, and that of a chain is made
  of the code of its links.
-/

namespace Playback

/-- The value describes the links of a chain, outermost first: it is an object that describes a
link, and its `next` describes the others. Where that is missing or `null`, there is no other
one. -/
inductive Json.DescribesChain : Json → List Description → Prop
  | last {members : Json.Members} {d : Description} (hread : Description.read members = .valid d)
    (hnext : ∀ value ∈ members.get? "next", value.isNull) : DescribesChain (.object members) [d]
  | next {members : Json.Members} {d : Description} {value : Json} {chain : List Description}
    (hread : Description.read members = .valid d) (hnext : members.get? "next" = some value)
    (h : DescribesChain value chain) : DescribesChain (.object members) (d :: chain)

namespace Description

/-- The link is of a known kind. One that is a position has a whole number for its body: decimal
digits behind at most one minus sign. -/
def IsRecognised (d : Description) : Prop :=
  d.kind ∈ kinds ∨ d.kind = ("nth" : Text) ∧ d.body.IsNumeral

/-- The code of a link, which stands behind that of the links in front of it. -/
def suffix (d : Description) : Text :=
  match d.link? with
  | .ok (some link) => (Step.link link).written
  | _ => []

section Reading

variable {members : Json.Members} {value : Json} {chain : List Description}

theorem chain?_object (members : Json.Members) : chain? (.object members) =
    (read members).value?.bind fun d =>
      (((members.get? "next").map nested?).getD (some [])).map (d :: ·) := by
  rw [chain?, ← nextOf?_eq]
  simp only [Option.bind_eq_bind, Option.pure_def, Option.map_eq_bind, Function.comp_def]

/-- What is read as a chain describes it. -/
theorem chain?_eq_some_iff : chain? value = some chain ↔ value.DescribesChain chain := by
  constructor
  · intro h
    -- Each nested description has a shorter chain.
    induction chain generalizing value with
    | nil =>
      cases value with
      | object members =>
        rw [chain?_object] at h
        obtain ⟨d, -, h⟩ := Option.bind_eq_some_iff.1 h
        obtain ⟨rest, -, h⟩ := Option.map_eq_some_iff.1 h
        cases h
      | null | bool | number | text | list => cases h
    | cons d chain ih =>
      cases value with
      | object members =>
        rw [chain?_object] at h
        obtain ⟨d', hread, h⟩ := Option.bind_eq_some_iff.1 h
        obtain ⟨rest, hrest, h⟩ := Option.map_eq_some_iff.1 h
        cases h
        replace hread := Checked.value?_eq_some_iff.1 hread
        cases hnext : Json.Members.get? members "next" with
        | none =>
          rw [hnext] at hrest
          cases hrest
          exact .last hread (by simp [hnext])
        | some value =>
          rw [hnext, Option.map_some, Option.getD_some, nested?] at hrest
          split at hrest
          · next hnull =>
            cases hrest
            exact .last hread (by simp [hnext, hnull])
          · exact .next hread hnext (ih hrest)
      | null | bool | number | text | list => cases h
  · intro h
    induction h with
    | @last members d hread hnext =>
      rw [chain?_object, hread]
      cases hget : Json.Members.get? members "next" with
      | none => rfl
      | some value =>
        have hnull : nested? value = some [] := if_pos (hnext value hget)
        rw [Option.map_some, hnull]
        rfl
    | @next members d value chain hread hnext h ih =>
      have hvalue : nested? value = some chain := by
        cases h <;> exact ih
      rw [chain?_object, hread, hnext, Option.map_some, hvalue]
      rfl

theorem ne_nil_of_describesChain (h : value.DescribesChain chain) : chain ≠ [] := by
  cases h <;> exact List.cons_ne_nil _ _

end Reading

section Links

variable {d : Description}

/-- A whole number is digits behind any minus signs. -/
theorem IsRecognised.isKnown (h : d.IsRecognised) : d.IsKnown := by
  rcases h with hkind | ⟨hkind, digits, hdigits, hbody⟩
  · exact .inl hkind
  · refine .inr ⟨hkind, ?_⟩
    have hall : ∀ p ∈ digits, p.isDigit := fun p hp =>
      CodePoint.isDigit_of_isDecimal (hdigits.isDecimal p hp)
    have hdrop : digits.dropWhile (· == .char '-') = digits := by
      rw [List.dropWhile_eq_self_iff]
      intro hlength hminus
      have hdecimal := hdigits.isDecimal _ (List.getElem_mem hlength)
      rw [beq_iff_eq.1 hminus] at hdecimal
      exact absurd hdecimal (by decide)
    have hboth : d.body.dropWhile (· == .char '-') = digits := by
      rcases hbody with hbody | hbody
      · rw [hbody, hdrop]
      · rw [hbody, List.dropWhile_cons, if_pos (by decide), hdrop]
    rw [hboth, Text.isDigits, Bool.and_eq_true]
    exact ⟨by simpa using hdigits.ne_nil, List.all_eq_true.2 hall⟩

/-- A link that is found is recognised. -/
theorem isRecognised_of_link? {link : Link} (h : d.link? = .ok (some link)) : d.IsRecognised := by
  obtain ⟨hknown, hreadable⟩ := exists_link?_iff.1 ⟨link, h⟩
  rcases hknown with hkind | ⟨hkind, hdigits⟩
  · exact .inl hkind
  · exact .inr ⟨hkind, by_contra fun hbody => hreadable (.position hkind hdigits hbody)⟩

theorem suffix_eq {link : Link} (h : d.link? = .ok (some link)) :
    d.suffix = (Step.link link).written := by
  rw [suffix, h]

end Links

end Description

namespace Locator

/-- The code of a target on a page or in a frame. -/
def code (root : Expression) (selector : Option Text) (description : Json) :
    Except Integer.Fault Text :=
  (ofTarget selector description).map fun (locator, _) => (locator.expression root).print

/-- The code of a locator: its root, and the links one behind the other. -/
theorem print_expression_eq (root : Expression) (locator : Locator) :
    (locator.expression root).print =
      root.print ++ locator.flatMap fun link => (Step.link link).written := by
  have hsteps := print_expression root [] locator
  rw [Step.along, List.flatMap_nil, List.nil_append, List.flatMap_map] at hsteps
  exact hsteps

section Chains

variable {chain : List Description} {locator : Locator}

/-- A chain has the locator of its links, if each of them has one. -/
theorem ofChain_eq_some_iff : ofChain chain = .ok (some locator) ↔
    List.Forall₂ (fun d link => d.link? = .ok (some link)) chain locator := by
  induction chain generalizing locator with
  | nil =>
    rw [ofChain, List.forall₂_nil_left_iff]
    exact ⟨fun h => by cases h; rfl, fun h => by rw [h]; rfl⟩
  | cons d chain ih =>
    rw [ofChain]
    constructor
    · intro h
      obtain ⟨_ | link, hlink, h⟩ := bind_eq_ok_iff.1 h
      · cases h
      · obtain ⟨rest?, hrest, h⟩ := bind_eq_ok_iff.1 h
        obtain ⟨rest, rfl, rfl⟩ := Option.map_eq_some_iff.1 (Except.ok.inj h)
        exact .cons hlink (ih.1 hrest)
    · rintro (_ | ⟨hlink, hrest⟩)
      rw [hlink, ok_bind]
      dsimp only
      rw [ih.2 hrest]
      rfl

/-- A chain without a locator has a link without one. -/
theorem exists_link?_of_ofChain (h : ofChain chain = .ok none) :
    ∃ d ∈ chain, d.link? = .ok none := by
  induction chain with
  | nil => cases h
  | cons d chain ih =>
    rw [ofChain] at h
    obtain ⟨_ | link, hlink, h⟩ := bind_eq_ok_iff.1 h
    · exact ⟨d, List.mem_cons_self, hlink⟩
    · obtain ⟨_ | rest, hrest, h⟩ := bind_eq_ok_iff.1 h
      · obtain ⟨other, hother, hnone⟩ := ih hrest
        exact ⟨other, List.mem_cons_of_mem d hother, hnone⟩
      · cases h

/-- Where all numbers that are reached can be read, a chain has no locator exactly if one of its
links is not recognised. -/
theorem ofChain_eq_none_iff {found : Option Locator} (h : ofChain chain = .ok found) :
    found = none ↔ ∃ d ∈ chain, ¬ d.IsRecognised := by
  constructor
  · rintro rfl
    obtain ⟨d, hd, hnone⟩ := exists_link?_of_ofChain h
    exact ⟨d, hd, fun hrecognised =>
      Description.link?_eq_none_iff.1 hnone hrecognised.isKnown⟩
  · rintro ⟨d, hd, hnot⟩
    cases found with
    | none => rfl
    | some locator =>
      have hall := forall_left_of_forall₂ (ofChain_eq_some_iff.1 h) fun d link hlink =>
        Description.isRecognised_of_link? hlink
      exact absurd (hall d hd) hnot

/-- The code of the locator of a chain is that of its links. -/
theorem flatMap_suffix (h : ofChain chain = .ok (some locator)) :
    chain.flatMap Description.suffix = locator.flatMap fun link => (Step.link link).written := by
  rw [ofChain_eq_some_iff] at h
  induction h with
  | nil => rfl
  | cons hlink _ ih => rw [List.flatMap_cons, List.flatMap_cons, Description.suffix_eq hlink, ih]

end Chains

section Targets

variable {selector : Option Text} {description : Json} {locator : Locator}

/-- What an object describes: a role, a chain or a single key. -/
theorem described_object (members : Json.Members) : described (.object members) =
    if hasRole members then .ok (ofRole? members)
    else if hasKindAndBody members then
      ((Description.chain? (.object members)).map ofChain).getD (.ok none)
    else .ok (ofSingleKey? members) := by
  unfold described
  dsimp only
  cases Description.chain? (.object members) <;> rfl

/-- Without a role the description of a chain has the locator of the chain. -/
theorem described_of_describesChain {members : Json.Members} {chain : List Description}
    (hrole : hasRole members = false) (h : (Json.object members).DescribesChain chain) :
    described (.object members) = ofChain chain := by
  have hboth : hasKindAndBody members := by
    cases h with
    | last hread | next hread => exact hasKindAndBody_of_read hread
  rw [← Description.chain?_eq_some_iff] at h
  rw [described_object, hrole, if_neg Bool.false_ne_true, if_pos hboth, h]
  rfl

/-- A description leads along at least one link. -/
theorem ne_nil_of_described (h : described description = .ok (some locator)) : locator ≠ [] := by
  unfold described at h
  split at h
  · next members =>
    split at h
    · obtain ⟨link, -, rfl⟩ := Option.map_eq_some_iff.1 (Except.ok.inj h)
      exact List.cons_ne_nil link []
    split at h
    · split at h
      · next chain hchain =>
        rintro rfl
        have hnil := List.forall₂_nil_right_iff.1 (ofChain_eq_some_iff.1 h)
        exact Description.ne_nil_of_describesChain (Description.chain?_eq_some_iff.1 hchain) hnil
      · cases h
    · obtain ⟨⟨key, link⟩, -, hfound⟩ := List.exists_of_findSome?_eq_some (Except.ok.inj h)
      dsimp only at hfound
      split at hfound
      · cases hfound
        exact List.cons_ne_nil _ _
      · cases hfound
  · split at h <;> cases h
    exact List.cons_ne_nil _ _
  · cases h

theorem ne_nil_of_withoutDescription (selector : Option Text) :
    (withoutDescription selector).1 ≠ [] := by
  unfold withoutDescription ofSelector?
  cases selector with
  | none => exact List.cons_ne_nil _ _
  | some raw =>
    dsimp only
    cases raw.isEmpty <;> exact List.cons_ne_nil _ _

/-- So does a target. -/
theorem ne_nil_of_ofTarget {log : Log} (h : ofTarget selector description = .ok (locator, log)) :
    locator ≠ [] := by
  unfold ofTarget at h
  split at h
  · obtain ⟨rfl, -⟩ := Prod.mk.inj (Except.ok.inj h)
    exact ne_nil_of_withoutDescription selector
  · obtain ⟨found, hfound, h⟩ := bind_eq_ok_iff.1 h
    split at h
    · cases h
      exact ne_nil_of_described hfound
    · split at h
      · cases h
        exact List.cons_ne_nil _ _
      · cases h
        exact ne_nil_of_withoutDescription selector

/-- The code of a link begins with a point. -/
theorem head?_flatMap_written (h : locator ≠ []) :
    (locator.flatMap fun link => (Step.link link).written).head? = some (.char '.') := by
  obtain ⟨link, rest, rfl⟩ := List.exists_cons_of_ne_nil h
  rfl

/-- The code of a target is its root and a text behind it that does not depend on the root. -/
theorem code_eq (root : Expression) (selector : Option Text) (description : Json) :
    code root selector description = ((ofTarget selector description).map fun (locator, _) =>
      locator.flatMap fun link => (Step.link link).written).map (root.print ++ ·) := by
  unfold code
  cases ofTarget selector description with
  | error fault => rfl
  | ok result => exact congrArg Except.ok (print_expression_eq root result.1)

end Targets

/-- What the description of a chain comes to. -/
structure ComposesChain (members : Json.Members) (found : Option Locator) : Prop where
  /-- It has no locator exactly if it is not valid or one of its links is not recognised. -/
  none_iff : found = none ↔ (¬ ∃ chain, (Json.object members).DescribesChain chain) ∨
    ∃ chain, (Json.object members).DescribesChain chain ∧ ∃ d ∈ chain, ¬ d.IsRecognised
  /-- Otherwise its code is the root and the code of its links, in order. -/
  print_eq : ∀ locator, found = some locator → ∃ chain,
    (Json.object members).DescribesChain chain ∧ ∀ root : Expression,
      (locator.expression root).print = root.print ++ chain.flatMap Description.suffix

theorem composesChain_of_described {members : Json.Members} {found : Option Locator}
    (hboth : hasKindAndBody members) (hrole : hasRole members = false)
    (h : described (.object members) = .ok found) : ComposesChain members found := by
  have hunique {chain other : List Description}
      (hchain : (Json.object members).DescribesChain chain)
      (hother : (Json.object members).DescribesChain other) : other = chain := by
    rw [← Description.chain?_eq_some_iff] at hchain hother
    exact Option.some.inj (hother.symm.trans hchain)
  cases hread : Description.chain? (.object members) with
  | some chain =>
    have hchain := Description.chain?_eq_some_iff.1 hread
    rw [described_of_describesChain hrole hchain] at h
    constructor
    · rw [ofChain_eq_none_iff h]
      constructor
      · exact fun hnot => .inr ⟨chain, hchain, hnot⟩
      · rintro (hinvalid | ⟨other, hother, hnot⟩)
        · exact absurd ⟨chain, hchain⟩ hinvalid
        · rwa [← hunique hchain hother]
    · rintro locator rfl
      refine ⟨chain, hchain, fun root => ?_⟩
      rw [print_expression_eq, flatMap_suffix h]
  | none =>
    rw [described_object, hrole, if_neg Bool.false_ne_true, if_pos hboth, hread] at h
    cases h
    have hinvalid : ¬ ∃ chain, (Json.object members).DescribesChain chain := by
      rintro ⟨chain, hchain⟩
      rw [← Description.chain?_eq_some_iff, hread] at hchain
      cases hchain
    exact ⟨iff_of_true rfl (.inl hinvalid), nofun⟩

/-- The code of every target that comes to a locator is its root and a text behind it, which begins
with a point and is the same behind every root. A description of a chain without numbers that cannot
be read comes to all of its links or to none. -/
theorem chains_compose :
    (∀ (selector : Option Text) (description : Json), ∃ behind : Except Integer.Fault Text,
      (∀ t, behind = .ok t → t.head? = some (.char '.')) ∧
      ∀ root, code root selector description = behind.map (root.print ++ ·)) ∧
    ∀ members : Json.Members, hasKindAndBody members → hasRole members = false →
      ¬ (Json.object members).HasUnreadable →
      ∃ found, described (.object members) = .ok found ∧ ComposesChain members found := by
  constructor
  · intro selector description
    refine ⟨_, fun t ht => ?_, fun root => code_eq root selector description⟩
    cases h : ofTarget selector description with
    | error fault =>
      rw [h] at ht
      cases ht
    | ok result =>
      rw [h] at ht
      cases ht
      exact head?_flatMap_written (ne_nil_of_ofTarget h)
  · intro members hboth hrole hreadable
    obtain ⟨found, hfound⟩ := exists_described_iff.2 hreadable
    exact ⟨found, hfound, composesChain_of_described hboth hrole hfound⟩

/-- The last row of a table, and a cell in it: three links, the second of which is a position. -/
theorem chains_compose_lastRow :
    let cell : Json := .object [("kind", .text "text"), ("body", .text "a"), ("next", .null)]
    let position : Json := .object [("kind", .text "nth"), ("body", .text "-١"), ("next", cell)]
    let members : Json.Members :=
      [("kind", .text "role"), ("body", .text "row"), ("next", position)]
    hasKindAndBody members ∧ hasRole members = false ∧ ¬ (Json.object members).HasUnreadable ∧
      ∃ found, described (.object members) = .ok found ∧ ComposesChain members found := by
  intro cell position members
  have hdescribed : described (.object members) =
      .ok (some [.role "row" none false [], .nth (-1), .byText .text "a" false]) :=
    toOption_eq_some_iff.1 (by decide +kernel)
  have hreadable := exists_described_iff.1 ⟨_, hdescribed⟩
  exact ⟨rfl, rfl, hreadable, chains_compose.2 members rfl rfl hreadable⟩

end Locator

end Playback
