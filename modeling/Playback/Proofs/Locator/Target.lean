import Playback.Locator.Target
import Playback.Proofs.Assoc
import Playback.Proofs.Except
import Playback.Proofs.Number.Numeral
import Playback.Proofs.Schema.Checked

/-!
# When a target has a locator

A description may ask for a number: the position of an element, or the level of a heading. A text
that looks like a number and is none that can be read is the only thing that a target fails for.

* `Description.IsKnown`: a link of a known kind. `Description.HasUnreadable`: a link with a number
  that cannot be read. `Description.exists_ofChain_iff`: a chain fails for the first of these, if
  all links in front of it are known.
* `Json.HasUnreadable`: a description with such a chain.
* `Locator.ofTarget_of_locator`, `Locator.ofTarget_of_not_described`: a description with a locator
  decides, and one without it is passed over for a selector, with a warning.
* `Locator.Resolves`: what a target comes to. `Locator.exists_resolves_iff`: it comes to something
  exactly if its description has no number that cannot be read.
-/

namespace Playback

namespace Description

/-- The kinds that have a link whatever the body is. -/
def kinds : List Text :=
  ["role", "default", "css", "text", "label", "placeholder", "alt", "title", "testid", "test-id",
    "first", "last"]

/-- The link is of a known kind. A position is known if it is digits behind any minus signs. -/
def IsKnown (d : Description) : Prop :=
  d.kind ∈ kinds ∨ d.kind = ("nth" : Text) ∧ Text.isDigits (d.body.dropWhile (· == .char '-'))

/-- The link has a number that cannot be read, though its text is digits: it is the position of an
element, or the level among the attributes of a role. -/
inductive HasUnreadable (d : Description) : Prop
  | position (hkind : d.kind = ("nth" : Text))
    (hdigits : Text.isDigits (d.body.dropWhile (· == .char '-'))) (h : ¬ d.body.IsNumeral)
  | level (hkind : d.kind = ("role" : Text)) {a : Attribute} (ha : a ∈ d.options.attributes)
    (hname : a.name = ("level" : Text)) {value : Text} (hvalue : a.value = .text value)
    (hdigits : value.isDigits) (h : ¬ value.IsNumeral)

end Description

section States

/-- The name of the level is the only one of it. -/
theorem AriaState.ofName?_eq_level_iff {name : Text} :
    ofName? name = some .level ↔ name = ("level" : Text) := by
  constructor
  · intro h
    simpa using mem_of_lookup h
  · rintro rfl
    rfl

theorem StateValue.exists_read_iff {state : AriaState} {value : Json} :
    (∃ result, read state value = .ok result) ↔
      ∀ t, state = .level → value = .text t → t.isDigits → t.IsNumeral := by
  cases value with
  | text t =>
    rw [read]
    by_cases h : state = .level ∧ t.isDigits
    · rw [if_pos h, exists_map_eq_ok_iff, Integer.exists_read_iff]
      constructor
      · rintro hnumeral _ - ⟨rfl⟩ -
        exact hnumeral
      · intro hall
        exact hall t h.1 rfl h.2
    · rw [if_neg h]
      refine ⟨?_, fun _ => ⟨_, rfl⟩⟩
      rintro - _ hlevel ⟨rfl⟩ hdigits
      exact absurd ⟨hlevel, hdigits⟩ h
  | null | bool | number | list | object => simp [read]

/-- The states of a role can be read unless one of them is a level that cannot be. -/
theorem DescriptionOptions.exists_states_iff {options : DescriptionOptions} :
    (∃ states, options.states = .ok states) ↔ ∀ a ∈ options.attributes, ∀ t,
      a.name = ("level" : Text) → a.value = .text t → t.isDigits → t.IsNumeral := by
  have hmap {state : AriaState} {value : Json} :
      (∃ entry, (StateValue.read state value).map (state, ·) = .ok entry) ↔
        ∃ result, StateValue.read state value = .ok result := exists_map_eq_ok_iff
  have hread : (∃ states, options.states = .ok states) ↔
      ∀ entry ∈ options.given.filterMap fun a => (AriaState.ofName? a.name).map (·, a.value),
        ∃ result, StateValue.read entry.1 entry.2 = .ok result := by
    simp only [← hmap]
    rw [← exists_mapM_eq_ok_iff]
    exact exists_map_eq_ok_iff (f := Assoc.ofPairs)
  simp only [hread, StateValue.exists_read_iff, List.mem_filterMap, Option.map_eq_some_iff]
  constructor
  · intro h a ha t hname hvalue
    have hgiven : a ∈ options.given := List.mem_filter.2 ⟨ha, by rw [hvalue]; rfl⟩
    exact h (.level, a.value) ⟨a, hgiven, .level, AriaState.ofName?_eq_level_iff.2 hname, rfl⟩ t
      rfl hvalue
  · rintro h _ ⟨a, hgiven, state, hstate, rfl⟩ t rfl hvalue
    exact h a (List.mem_of_mem_filter hgiven) t (AriaState.ofName?_eq_level_iff.1 hstate) hvalue

end States

namespace Description

variable {d : Description}

/-- Only positions and roles have numbers. -/
theorem HasUnreadable.kind_eq (h : d.HasUnreadable) :
    d.kind = ("nth" : Text) ∨ d.kind = ("role" : Text) := by
  cases h with
  | position hkind => exact .inl hkind
  | level hkind => exact .inr hkind

theorem HasUnreadable.isKnown (h : d.HasUnreadable) : d.IsKnown := by
  cases h with
  | position hkind hdigits => exact .inr ⟨hkind, hdigits⟩
  | level hkind =>
    left
    rw [hkind]
    decide

/-- What the described link comes to. -/
private inductive Comes (d : Description) : Except Integer.Fault (Option Link) → Prop
  | link (hknown : d.IsKnown) (h : ¬ d.HasUnreadable) (link : Link) : Comes d (.ok (some link))
  | unknown (hknown : ¬ d.IsKnown) : Comes d (.ok none)
  | fault (h : d.HasUnreadable) (fault : Integer.Fault) : Comes d (.error fault)

private theorem comes_role (hkind : d.kind = ("role" : Text)) :
    Comes d ((fun states => some (.role d.body d.options.roleName d.options.isExact states)) <$>
      d.options.states) := by
  have hne : d.kind ≠ ("nth" : Text) := by
    rw [hkind]
    decide
  cases hs : d.options.states with
  | ok states =>
    have hall := DescriptionOptions.exists_states_iff.1 ⟨states, hs⟩
    refine .link (.inl (by rw [hkind]; decide)) ?_ _
    rintro (⟨hnth, -, -⟩ | ⟨-, ha, hname, hvalue, hdigits, h⟩)
    · exact hne hnth
    · exact h (hall _ ha _ hname hvalue hdigits)
  | error fault =>
    have hnone : ¬ ∃ states, d.options.states = .ok states := by
      rw [hs]
      rintro ⟨states, h⟩
      cases h
    rw [DescriptionOptions.exists_states_iff] at hnone
    push Not at hnone
    obtain ⟨a, ha, t, hname, hvalue, hdigits, h⟩ := hnone
    exact .fault (.level hkind ha hname hvalue hdigits h) fault

private theorem comes_position (hkind : d.kind = ("nth" : Text))
    (hdigits : Text.isDigits (d.body.dropWhile (· == .char '-'))) :
    Comes d ((fun position => some (.nth position)) <$> Integer.read d.body) := by
  have hne : d.kind ≠ ("role" : Text) := by
    rw [hkind]
    decide
  cases hr : Integer.read d.body with
  | ok position =>
    have hnumeral := Integer.exists_read_iff.1 ⟨position, hr⟩
    refine .link (.inr ⟨hkind, hdigits⟩) ?_ _
    rintro (⟨-, -, h⟩ | ⟨hrole, -⟩)
    · exact h hnumeral
    · exact hne hrole
  | error fault =>
    refine .fault (.position hkind hdigits fun hnumeral => ?_) fault
    obtain ⟨value, hv⟩ := Integer.exists_read_iff.2 hnumeral
    rw [hr] at hv
    cases hv

/-- The kinds, in the order in which they are looked for. -/
private theorem kinds_cases : ∀ kind ∈ kinds, kind = ("role" : Text) ∨
    (kind = ("default" : Text) ∨ kind = ("css" : Text)) ∨ (TextTarget.ofKind? kind).isSome ∨
    (kind = ("testid" : Text) ∨ kind = ("test-id" : Text)) ∨ kind = ("first" : Text) ∨
    kind = ("last" : Text) := by
  decide

private theorem comes_link? (d : Description) : Comes d d.link? := by
  have hplain {link : Link} (hkind : d.kind ∈ kinds) (hrole : d.kind ≠ ("role" : Text)) :
      Comes d (.ok (some link)) := by
    refine .link (.inl hkind) (fun h => ?_) link
    rcases h.kind_eq with hk | hk
    · rw [hk] at hkind
      revert hkind
      decide
    · exact hrole hk
  -- the kinds are tried one after the other, and what is left is of none of them
  unfold link?
  split
  · next hk => exact comes_role hk
  next hrole =>
  split
  · next hk => exact hplain (by rcases hk with hk | hk <;> rw [hk] <;> decide) hrole
  next hselector =>
  split
  · next target htarget =>
    have htable : ∀ entry ∈ ([("text", .text), ("label", .label), ("placeholder", .placeholder),
        ("alt", .altText), ("title", .title)] : List (Text × TextTarget)), entry.1 ∈ kinds := by
      decide
    exact hplain (htable _ (mem_of_lookup htarget)) hrole
  next htext =>
  split
  · next hk => exact hplain (by rcases hk with hk | hk <;> rw [hk] <;> decide) hrole
  next htestId =>
  split
  · next hk => exact comes_position hk.1 hk.2
  next hnth =>
  split
  · next hk => exact hplain (by rw [hk]; decide) hrole
  next hfirst =>
  split
  · next hk => exact hplain (by rw [hk]; decide) hrole
  next hlast =>
  refine .unknown fun hknown => ?_
  rcases hknown with hkind | hposition
  · rcases kinds_cases _ hkind with h | h | h | h | h | h
    · exact hrole h
    · exact hselector h
    · obtain ⟨target, htarget⟩ := Option.isSome_iff_exists.1 h
      exact htext target htarget
    · exact htestId h
    · exact hfirst h
    · exact hlast h
  · exact hnth hposition

/-- A link is unknown exactly if it is of no known kind. -/
theorem link?_eq_none_iff : d.link? = .ok none ↔ ¬ d.IsKnown := by
  have hd := comes_link? d
  generalize d.link? = result at hd
  cases hd with
  | link hknown => exact iff_of_false nofun (not_not_intro hknown)
  | unknown hknown => exact iff_of_true rfl hknown
  | fault h => exact iff_of_false nofun (not_not_intro h.isKnown)

/-- A link is found exactly if it is of a known kind and its numbers can be read. -/
theorem exists_link?_iff : (∃ link, d.link? = .ok (some link)) ↔ d.IsKnown ∧ ¬ d.HasUnreadable := by
  have hd := comes_link? d
  generalize d.link? = result at hd
  cases hd with
  | link hknown h link => exact iff_of_true ⟨link, rfl⟩ ⟨hknown, h⟩
  | unknown hknown => exact iff_of_false nofun fun h => hknown h.1
  | fault h => exact iff_of_false nofun fun hnone => hnone.2 h

/-- Behind links of known kinds there is one with a number that cannot be read. -/
inductive ReachUnreadable : List Description → Prop
  | here {d : Description} (h : d.HasUnreadable) (chain : List Description) :
    ReachUnreadable (d :: chain)
  | behind {d : Description} {chain : List Description} (hd : d.IsKnown)
    (h : ReachUnreadable chain) : ReachUnreadable (d :: chain)

theorem exists_ofChain_iff {chain : List Description} :
    (∃ locator?, Locator.ofChain chain = .ok locator?) ↔ ¬ ReachUnreadable chain := by
  induction chain with
  | nil =>
    refine ⟨fun _ h => ?_, fun _ => ⟨_, rfl⟩⟩
    cases h
  | cons d chain ih =>
    have hd := comes_link? d
    rw [Locator.ofChain]
    generalize d.link? = result at hd
    cases hd with
    | link hknown hnone link =>
      have hmap : (∃ locator?, (Option.map (link :: ·) <$> Locator.ofChain chain) = .ok locator?) ↔
          ¬ ReachUnreadable chain := exists_map_eq_ok_iff.trans ih
      refine hmap.trans (not_congr ⟨.behind hknown, fun h => ?_⟩)
      cases h with
      | here h => exact absurd h hnone
      | behind _ h => exact h
    | unknown hknown =>
      refine ⟨fun _ h => ?_, fun _ => ⟨none, rfl⟩⟩
      cases h with
      | here h => exact hknown h.isKnown
      | behind hd => exact hknown hd
    | fault h fault =>
      constructor
      · rintro ⟨locator?, hok⟩
        cases hok
      · intro hnone
        exact absurd (.here h chain) hnone

end Description

/-- The description is a chain of links, in which behind links of known kinds there is one with a
number that cannot be read. An object with a role is no chain. -/
def Json.HasUnreadable (description : Json) : Prop :=
  ∃ members chain, description = .object members ∧ Locator.hasRole members = false ∧
    Description.chain? description = some chain ∧ Description.ReachUnreadable chain

namespace Locator

/-- A link has a kind and a body. -/
theorem hasKindAndBody_of_read {members : Json.Members} {d : Description}
    (h : Description.read members = .valid d) : hasKindAndBody members := by
  obtain ⟨-, h⟩ := Json.Members.withUnicodeNames_eq_valid_iff.1 h
  obtain ⟨_, _, h, -, -⟩ := Checked.seq_eq_valid_iff.1 h
  obtain ⟨_, _, h, hbody, -⟩ := Checked.seq_eq_valid_iff.1 h
  obtain ⟨_, hkind, -⟩ := Checked.map_eq_valid_iff.1 h
  simp [hasKindAndBody, Json.Members.get?_of_required_text hkind,
    Json.Members.get?_of_required_text hbody]

theorem exists_described_iff {description : Json} :
    (∃ locator?, described description = .ok locator?) ↔ ¬ description.HasUnreadable := by
  have hother (h : ∀ members, description ≠ .object members) : ¬ description.HasUnreadable := by
    rintro ⟨members, chain, hobject, -⟩
    exact h members hobject
  cases description with
  | object members =>
    unfold described
    dsimp only
    by_cases hrole : hasRole members = true
    · rw [if_pos hrole]
      refine ⟨?_, fun _ => ⟨_, rfl⟩⟩
      rintro - ⟨members', chain, ⟨rfl⟩, hno, -⟩
      rw [hrole] at hno
      cases hno
    · rw [if_neg hrole]
      have hiff (chain : List Description)
          (hchain : Description.chain? (.object members) = some chain) :
          (Json.object members).HasUnreadable ↔ Description.ReachUnreadable chain := by
        constructor
        · rintro ⟨_, other, -, -, hother, h⟩
          cases hchain.symm.trans hother
          exact h
        · intro h
          exact ⟨members, chain, rfl, by simpa using hrole, hchain, h⟩
      -- a description that is no chain is looked at for its keys only, and none is unreadable
      cases hchain : Description.chain? (.object members) with
      | some chain =>
        have hread : ∃ d, Description.read members = .valid d := by
          rw [Description.chain?] at hchain
          obtain ⟨d, hd, -⟩ := Option.bind_eq_some_iff.1 hchain
          exact ⟨d, Checked.value?_eq_some_iff.1 hd⟩
        obtain ⟨d, hd⟩ := hread
        rw [if_pos (hasKindAndBody_of_read hd), hiff chain hchain]
        exact Description.exists_ofChain_iff
      | none =>
        have hnone : ¬ (Json.object members).HasUnreadable := by
          rintro ⟨_, chain, ⟨rfl⟩, -, hsome, -⟩
          rw [hchain] at hsome
          cases hsome
        refine ⟨fun _ => hnone, fun _ => ?_⟩
        split <;> exact ⟨_, rfl⟩
  | null | bool | number | text | list =>
    exact ⟨fun _ => hother (by simp), fun _ => ⟨_, rfl⟩⟩

/-- What a target comes to. -/
inductive Resolves (selector : Option Text) (description : Json) : Locator → Prop
  /-- The description has a locator. -/
  | described {locator : Locator} (h : described description = .ok (some locator)) :
    Resolves selector description locator
  /-- It has none, and there is a selector. -/
  | selector {raw : Text} (h : Locator.described description = .ok none)
    (hraw : selector = some raw) (hne : raw ≠ []) :
    Resolves selector description [Selector.link raw]
  /-- There is no selector either, but a body. -/
  | body {raw : Text} (h : Locator.described description = .ok none)
    (hselector : selector.getD [] = []) (hraw : bodySelector? description = some raw) :
    Resolves selector description [.selector raw]
  /-- There is nothing at all. -/
  | nothing (h : Locator.described description = .ok none) (hselector : selector.getD [] = [])
    (hraw : bodySelector? description = none) : Resolves selector description [.selector []]

section Targets

variable {selector : Option Text} {description : Json}

private theorem ofTarget_of_described (hnull : description.isNull = false) :
    ofTarget selector description = described description >>= fun
      | some locator => .ok (locator, [])
      | none =>
        match ofSelector? selector, bodySelector? description with
        | none, some body => .ok ([.selector body], [.unknownDescription description])
        | _, _ => .ok ((withoutDescription selector).1,
            .unknownDescription description :: (withoutDescription selector).2) := by
  unfold ofTarget
  rw [hnull]
  rfl

theorem exists_described_of_ofTarget {found : Locator × Log} (hnull : description.isNull = false)
    (h : ofTarget selector description = .ok found) :
    ∃ locator?, described description = .ok locator? := by
  rw [ofTarget_of_described hnull] at h
  obtain ⟨locator?, hlocator, -⟩ := bind_eq_ok_iff.1 h
  exact ⟨locator?, hlocator⟩

/-- A description with a locator decides, whatever the selector is. -/
theorem ofTarget_of_locator {locator : Locator} (h : described description = .ok (some locator))
    (selector : Option Text) : ofTarget selector description = .ok (locator, []) := by
  have hnull : description.isNull = false := by
    cases description with
    | null => cases h
    | bool | number | text | list | object => rfl
  rw [ofTarget_of_described hnull, h]
  rfl

theorem ofSelector?_of_ne_nil {raw : Text} (hne : raw ≠ []) :
    ofSelector? (some raw) = some [Selector.link raw] :=
  if_neg (by simpa using hne)

theorem withoutDescription_of_ne_nil {raw : Text} (hne : raw ≠ []) :
    withoutDescription (some raw) = ([Selector.link raw], []) := by
  rw [withoutDescription, ofSelector?_of_ne_nil hne]

/-- Without a description a selector that is no empty one is read. -/
theorem ofTarget_of_link {raw : Text} {link : Link} (h : Selector.link raw = link)
    (hne : link ≠ .selector []) : ofTarget (some raw) .null = .ok ([link], []) := by
  have hraw : raw ≠ [] := by
    rintro rfl
    exact hne h.symm
  show Except.ok (withoutDescription (some raw)) = _
  rw [withoutDescription_of_ne_nil hraw, h]

theorem ofSelector?_of_empty (h : selector.getD [] = []) : ofSelector? selector = none := by
  cases selector with
  | none => rfl
  | some raw =>
    cases h
    rfl

/-- Where there is no selector either, the empty one is taken with a warning. -/
theorem withoutDescription_of_empty (h : selector.getD [] = []) :
    withoutDescription selector = ([.selector []], [.noTarget]) := by
  rw [withoutDescription, ofSelector?_of_empty h]

/-- A description that has no locator is passed over with a warning, if there is a selector. -/
theorem ofTarget_of_not_described {raw : Text} (hnull : description.isNull = false)
    (hd : described description = .ok none) (hne : raw ≠ []) :
    ofTarget (some raw) description =
      .ok ([Selector.link raw], [.unknownDescription description]) := by
  rw [ofTarget_of_described hnull, hd, ok_bind]
  dsimp only
  rw [ofSelector?_of_ne_nil hne, withoutDescription_of_ne_nil hne]

/-- A selector that is not empty decides where the description does not. -/
private theorem ofTarget_selector {raw : Text} (hne : raw ≠ [])
    (hd : described description = .ok none) :
    ∃ log, ofTarget (some raw) description = .ok ([Selector.link raw], log) := by
  cases hnull : description.isNull with
  | true =>
    refine ⟨[], ?_⟩
    rw [ofTarget, hnull, if_pos rfl, withoutDescription_of_ne_nil hne]
    rfl
  | false => exact ⟨_, ofTarget_of_not_described hnull hd hne⟩

/-- Without one the body of the description is taken, and the empty selector if there is none. -/
private theorem ofTarget_body (hselector : selector.getD [] = [])
    (hd : described description = .ok none) :
    ∃ log, ofTarget selector description =
      .ok ([.selector ((bodySelector? description).getD [])], log) := by
  have hraw := ofSelector?_of_empty hselector
  have hwithout := withoutDescription_of_empty hselector
  cases hnull : description.isNull with
  | true =>
    have hbody : bodySelector? description = none := by
      cases description <;> first | rfl | cases hnull
    refine ⟨[.noTarget], ?_⟩
    rw [ofTarget, hnull, if_pos rfl, hwithout, hbody]
    rfl
  | false =>
    rw [ofTarget_of_described hnull, hd, ok_bind]
    dsimp only
    rw [hraw, hwithout]
    cases bodySelector? description with
    | none => exact ⟨_, rfl⟩
    | some body => exact ⟨_, rfl⟩

end Targets

/-- A target comes to a locator for every selector and every description, of whatever shape: to that
of the description, or else to the selector, to the body of the description or to the empty
selector. There is one exception: a description with a number that cannot be read. -/
theorem exists_resolves_iff (selector : Option Text) (description : Json) :
    (∃ locator log, ofTarget selector description = .ok (locator, log) ∧
      Resolves selector description locator) ↔ ¬ description.HasUnreadable := by
  rw [← exists_described_iff]
  constructor
  · rintro ⟨locator, log, hok, hresolves⟩
    cases hresolves with
    | described h | selector h | body h | nothing h => exact ⟨_, h⟩
  · rintro ⟨_ | locator, hd⟩
    · by_cases hselector : selector.getD [] = []
      · obtain ⟨log, hok⟩ := ofTarget_body hselector hd
        cases hbody : bodySelector? description with
        | some body =>
          rw [hbody] at hok
          exact ⟨_, log, hok, .body hd hselector hbody⟩
        | none =>
          rw [hbody] at hok
          exact ⟨_, log, hok, .nothing hd hselector hbody⟩
      · cases selector with
        | none => exact absurd rfl hselector
        | some raw =>
          obtain ⟨log, hok⟩ := ofTarget_selector hselector hd
          exact ⟨_, log, hok, .selector hd rfl hselector⟩
    · exact ⟨locator, [], ofTarget_of_locator hd selector, .described hd⟩

/-- A superscript is a digit, but no number: the position that it describes comes to nothing. -/
theorem not_resolves_superscript : ¬ ∃ locator log,
    ofTarget none (.object [("kind", .text "nth"), ("body", .text "²")]) = .ok (locator, log) := by
  have hnone : (ofTarget none
      (.object [("kind", .text "nth"), ("body", .text "²")])).toOption.isNone := by decide +kernel
  rintro ⟨locator, log, h⟩
  rw [h] at hnone
  cases hnone

end Locator

end Playback
