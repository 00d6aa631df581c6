import Playback.Proofs.Assoc
import Playback.Proofs.Locator.Chain

/-!
# The arguments of a role

The description of a role may have any list of attributes. Of those that give a name the first one
counts, and only where the options have neither a name nor a flag; of those that give the same state
the last one counts, in the place of the first one. All others are passed over.

* `Attribute.state?`, `Attribute.givesName`: what an attribute gives.
* `DescriptionOptions.HasKeywords`: the arguments with a keyword that the options of a role give.
* `DescriptionOptions.states_eq`: the states of a role are those that its attributes give, put one
  after the other.
* `Description.IsRoleCall`: the link is a call with these arguments, and nothing else of the
  attributes counts. `Locator.isRoleCall_of_described`: so is each role of a chain.
-/

namespace Playback

/-- The state that an attribute gives. One without a value gives none. -/
def Attribute.state? (a : Attribute) : Option AriaState :=
  if a.value.isNull then none else AriaState.ofName? a.name

/-- Does the attribute give a name? -/
def Attribute.givesName (a : Attribute) : Bool := !a.value.isNull && a.name = ("name" : Text)

/-- The link without the attributes that give neither a state nor a name. -/
def Description.pruned (d : Description) : Description :=
  { d with options.attributes := d.options.attributes.filter fun a =>
      a.state?.isSome || a.givesName }

namespace DescriptionOptions

/-- The place of the first attribute that gives a state. -/
def firstPlace (options : DescriptionOptions) (state : AriaState) : Nat :=
  options.attributes.findIdx (·.state? = some state)

/-- The last attribute that gives a state. -/
def last? (options : DescriptionOptions) (state : AriaState) : Option Attribute :=
  options.attributes.reverse.find? (·.state? = some state)

/-- The name of a role is that of the options. Where these have neither a name nor a flag, it is the
value of the first attribute that gives one. -/
inductive GivesName (options : DescriptionOptions) : Text → Prop
  | ofOptions {name : Text} (h : options.name = some name) : GivesName options name
  | ofAttribute {a : Attribute} (hname : options.name = none) (hexact : options.exact = none)
    (h : options.attributes.find? Attribute.givesName = some a) :
    GivesName options a.value.displayed

/-- The arguments with a keyword that the options of a role give. -/
structure HasKeywords (options : DescriptionOptions) (keywords : List (Text × Expression)) :
    Prop where
  /-- No keyword comes twice. -/
  nodup : (keywords.map Prod.fst).Nodup
  /-- The name comes first, then the flag, then the states in the order of the attributes that give
  them first. -/
  order : ∃ (front : List Text) (states : List AriaState),
    keywords.map Prod.fst = front ++ states.map AriaState.keyword ∧
    front.Sublist ["name", "exact"] ∧
    states.Pairwise fun state other => options.firstPlace state < options.firstPlace other
  name_iff : ∀ value : Expression, (("name" : Text), value) ∈ keywords ↔
    ∃ name, options.GivesName name ∧ value = .text name
  exact_iff : ∀ value : Expression, (("exact" : Text), value) ∈ keywords ↔
    options.exact = some true ∧ value = .bool true
  /-- There are the states that an attribute gives. -/
  state_iff : ∀ state, state.keyword ∈ keywords.map Prod.fst ↔
    ∃ a ∈ options.attributes, a.state? = some state
  /-- Their values are those of the last attributes that give them. -/
  value_iff : ∀ state value, (state.keyword, value) ∈ keywords ↔ ∃ a result,
    options.last? state = some a ∧ StateValue.read state a.value = .ok result ∧
      value = result.expression

end DescriptionOptions

/-! ## The states -/

/-- What comes first among the values of a list comes first in the list. -/
theorem findIdx_lt_of_idxOf_filterMap {α β : Type} [DecidableEq β] {f : α → Option β} {as : List α}
    {b c : β} (h : (as.filterMap f).idxOf b < (as.filterMap f).idxOf c) :
    as.findIdx (f · = some b) < as.findIdx (f · = some c) := by
  induction as with
  | nil => cases h
  | cons a as ih =>
    rw [List.findIdx_cons, List.findIdx_cons]
    cases hf : f a with
    | none =>
      rw [List.filterMap_cons_none hf] at h
      simpa using ih h
    | some d =>
      rw [List.filterMap_cons_some hf, List.idxOf_cons, List.idxOf_cons] at h
      by_cases hc : d = c
      · simp [hc] at h
      · by_cases hb : d = b
        · simp [hb, hb ▸ hc]
        · have hbehind : (as.filterMap f).idxOf b < (as.filterMap f).idxOf c := by
            simpa [beq_false_of_ne hb, beq_false_of_ne hc] using h
          simpa [hb, hc] using ih hbehind

/-- The value that a state has among those that are given is that of the attribute. -/
theorem Attribute.lookup_filterMap (state : AriaState) (attributes : List Attribute) :
    List.lookup state (attributes.filterMap fun a => a.state?.map (·, a.value)) =
      (attributes.find? (·.state? = some state)).map Attribute.value := by
  induction attributes with
  | nil => rfl
  | cons a attributes ih =>
    rw [List.filterMap_cons, List.find?_cons]
    cases hstate : a.state? with
    | none => simpa using ih
    | some other =>
      rw [Option.map_some]
      dsimp only
      rw [lookup_cons_eq_ite]
      by_cases h : state = other
      · simp [h]
      · simp [h, Ne.symm h, ih]

namespace DescriptionOptions

/-- The states that the attributes give, with their values, as often as they give them. -/
def named (options : DescriptionOptions) : List (AriaState × Json) :=
  options.attributes.filterMap fun a => a.state?.map (·, a.value)

section States

variable {options : DescriptionOptions} {states : List (AriaState × StateValue)}

theorem states_eq : options.states = Assoc.ofPairs <$> options.named.mapM fun (state, value) =>
    (StateValue.read state value).map (state, ·) := by
  have hnamed : options.named = options.given.filterMap fun a =>
      (AriaState.ofName? a.name).map (·, a.value) := by
    rw [named, given, List.filterMap_filter]
    refine List.filterMap_congr fun a _ => ?_
    rw [Attribute.state?]
    cases a.value.isNull <;> rfl
  rw [hnamed]
  rfl

/-- States that are read are the given ones with what their values mean, put one after the other. -/
theorem exists_of_states (h : options.states = .ok states) : ∃ pairs, states = Assoc.ofPairs pairs ∧
    List.Forall₂ (fun entry pair => entry.1 = pair.1 ∧
      StateValue.read entry.1 entry.2 = .ok pair.2) options.named pairs := by
  rw [states_eq] at h
  obtain ⟨pairs, hpairs, h⟩ := bind_eq_ok_iff.1 h
  refine ⟨pairs, (Except.ok.inj h).symm, (mapM_eq_ok_iff.1 hpairs).imp ?_⟩
  rintro ⟨state, value⟩ pair hread
  dsimp only at hread ⊢
  cases hvalue : StateValue.read state value with
  | error fault =>
    rw [hvalue] at hread
    cases hread
  | ok result =>
    rw [hvalue] at hread
    cases hread
    exact ⟨rfl, rfl⟩

/-- What is found by a state is what its value means. -/
theorem lookup_eq_some_iff_of_forall₂ {named : List (AriaState × Json)}
    {pairs : List (AriaState × StateValue)} {state : AriaState} {result : StateValue}
    (h : List.Forall₂ (fun entry pair => entry.1 = pair.1 ∧
      StateValue.read entry.1 entry.2 = .ok pair.2) named pairs) :
    List.lookup state pairs = some result ↔ ∃ value, List.lookup state named = some value ∧
      StateValue.read state value = .ok result := by
  induction h with
  | nil => simp
  | @cons entry pair named pairs hpair _ ih =>
    rw [lookup_cons_eq_ite, lookup_cons_eq_ite, hpair.1]
    split
    · next hstate =>
      have hread : StateValue.read state entry.2 = .ok pair.2 := by
        rw [hstate, ← hpair.1]
        exact hpair.2
      simp [hread]
    · exact ih

/-- The states that are read are those that an attribute gives, each once, in the order in which
they come first, with the value that comes last. -/
structure HasStates (options : DescriptionOptions) (states : List (AriaState × StateValue)) :
    Prop where
  nodup : (states.map Prod.fst).Nodup
  pairwise : (states.map Prod.fst).Pairwise fun state other =>
    options.firstPlace state < options.firstPlace other
  mem_iff : ∀ state, state ∈ states.map Prod.fst ↔ ∃ a ∈ options.attributes, a.state? = some state
  value_iff : ∀ state result, (state, result) ∈ states ↔
    ∃ a, options.last? state = some a ∧ StateValue.read state a.value = .ok result

theorem hasStates_of_states (h : options.states = .ok states) : options.HasStates states := by
  obtain ⟨pairs, rfl, hpairs⟩ := exists_of_states h
  have hkeys : pairs.map Prod.fst = options.attributes.filterMap Attribute.state? := by
    have hsame : options.named.map Prod.fst = pairs.map Prod.fst := by
      rw [← List.forall₂_eq_eq_eq, List.forall₂_map_left_iff, List.forall₂_map_right_iff]
      exact hpairs.imp fun _ _ hpair => hpair.1
    rw [← hsame, named, List.map_filterMap]
    refine List.filterMap_congr fun a _ => ?_
    cases a.state? <;> rfl
  constructor
  · exact Assoc.nodup_ofPairs pairs
  · refine (Assoc.pairwise_ofPairs pairs).imp fun hlt => ?_
    rw [hkeys] at hlt
    exact findIdx_lt_of_idxOf_filterMap hlt
  · intro state
    rw [Assoc.mem_map_fst_ofPairs, hkeys, List.mem_filterMap]
  · intro state result
    have hreversed : options.named.reverse =
        options.attributes.reverse.filterMap fun a => a.state?.map (·, a.value) :=
      (List.filterMap_reverse ..).symm
    rw [← lookup_eq_some_iff_mem (Assoc.nodup_ofPairs pairs), Assoc.lookup_ofPairs,
      lookup_eq_some_iff_of_forall₂ (List.forall₂_reverse_iff.2 hpairs), hreversed,
      Attribute.lookup_filterMap]
    simp only [Option.map_eq_some_iff, last?]
    constructor
    · rintro ⟨_, ⟨a, ha, rfl⟩, hread⟩
      exact ⟨a, ha, hread⟩
    · rintro ⟨a, ha, hread⟩
      exact ⟨_, ⟨a, ha, rfl⟩, hread⟩

end States

/-! ## The name and the keywords -/

section Keywords

variable {options : DescriptionOptions} {states : List (AriaState × StateValue)}

/-- The attribute that gives the name is the first one with a value that is called so. -/
theorem find?_given (options : DescriptionOptions) :
    options.given.find? (·.name = ("name" : Text)) =
      options.attributes.find? Attribute.givesName := by
  rw [given, List.find?_filter]
  refine congrArg (options.attributes.find? ·) (funext fun a => ?_)
  simp [Attribute.givesName]

theorem roleName_eq_some_iff {name : Text} : options.roleName = some name ↔
    options.GivesName name := by
  unfold roleName
  rw [find?_given]
  split
  · next hboth =>
    rw [Bool.and_eq_true, Option.isNone_iff_eq_none, Option.isNone_iff_eq_none] at hboth
    rw [Option.map_eq_some_iff]
    constructor
    · rintro ⟨a, ha, rfl⟩
      exact .ofAttribute hboth.1 hboth.2 ha
    · intro h
      cases h with
      | ofOptions h =>
        rw [hboth.1] at h
        cases h
      | ofAttribute _ _ h => exact ⟨_, h, rfl⟩
  · next hboth =>
    constructor
    · exact .ofOptions
    · intro h
      cases h with
      | ofOptions h => exact h
      | ofAttribute hname hexact => exact absurd (by rw [hname, hexact]; rfl) hboth

theorem isExact_iff : options.isExact ↔ options.exact = some true := by
  rw [isExact, beq_iff_eq]

end Keywords

end DescriptionOptions

/-! ## The call -/

theorem AriaState.keyword_inj {state other : AriaState} (h : state.keyword = other.keyword) :
    state = other := by
  cases state <;> cases other <;> first | rfl | exact absurd h (by decide)

/-- No state has the keyword of the name or of the flag. -/
theorem AriaState.keyword_not_mem (state : AriaState) :
    state.keyword ∉ (["name", "exact"] : List Text) := by
  cases state <;> decide

namespace Link

/-- The arguments with a keyword of a role. -/
def roleKeywords (name : Option Text) (exact : Bool) (states : List (AriaState × StateValue)) :
    List (Text × Expression) :=
  (name.toList.map fun n => (("name" : Text), Expression.text n)) ++ exactKeyword exact ++
    states.map fun (state, value) => (state.keyword, value.expression)

variable {name : Option Text} {exact : Bool} {states : List (AriaState × StateValue)}

theorem map_fst_roleKeywords : (roleKeywords name exact states).map Prod.fst =
    (name.toList.map fun _ => ("name" : Text)) ++ (if exact then [("exact" : Text)] else []) ++
      (states.map Prod.fst).map AriaState.keyword := by
  cases exact <;> simp [roleKeywords, exactKeyword, Function.comp_def]

theorem mem_roleKeywords {keyword : Text} {value : Expression} :
    (keyword, value) ∈ roleKeywords name exact states ↔
      (keyword = ("name" : Text) ∧ ∃ n, name = some n ∧ value = .text n) ∨
      (keyword = ("exact" : Text) ∧ exact ∧ value = .bool true) ∨
      ∃ state result, (state, result) ∈ states ∧ keyword = state.keyword ∧
        value = result.expression := by
  cases exact <;> cases name <;> simp [roleKeywords, exactKeyword, eq_comm]

/-- The keywords in front of those of the states. -/
theorem front_sublist (name : Option Text) (exact : Bool) :
    ((name.toList.map fun _ => ("name" : Text)) ++ if exact then [("exact" : Text)] else []).Sublist
      ["name", "exact"] := by
  cases name <;> cases exact <;> simp

theorem nodup_roleKeywords (h : (states.map Prod.fst).Nodup) :
    ((roleKeywords name exact states).map Prod.fst).Nodup := by
  have hfront := (front_sublist name exact).nodup (by decide)
  rw [map_fst_roleKeywords, List.nodup_append']
  refine ⟨hfront, h.map fun _ _ => AriaState.keyword_inj, fun keyword hkeyword hstate => ?_⟩
  obtain ⟨state, -, rfl⟩ := List.mem_map.1 hstate
  exact state.keyword_not_mem ((front_sublist name exact).subset hkeyword)

end Link

theorem DescriptionOptions.hasKeywords_of_states {options : DescriptionOptions}
    {states : List (AriaState × StateValue)} (h : options.states = .ok states) :
    options.HasKeywords (Link.roleKeywords options.roleName options.isExact states) := by
  have hstates := hasStates_of_states h
  -- no state has the keyword of the name or of the flag
  have hname : ∀ state : AriaState, state.keyword ≠ ("name" : Text) := fun state heq =>
    state.keyword_not_mem (by rw [heq]; exact List.mem_cons_self)
  have hexact : ∀ state : AriaState, state.keyword ≠ ("exact" : Text) := fun state heq =>
    state.keyword_not_mem (by rw [heq]; decide)
  constructor
  case nodup => exact Link.nodup_roleKeywords hstates.nodup
  case order =>
    exact ⟨_, _, Link.map_fst_roleKeywords, Link.front_sublist _ _, hstates.pairwise⟩
  case name_iff =>
    intro value
    have hne : ("name" : Text) ≠ ("exact" : Text) := by decide
    simp [Link.mem_roleKeywords, roleName_eq_some_iff, hne, (hname _).symm]
  case exact_iff =>
    intro value
    have hne : ("exact" : Text) ≠ ("name" : Text) := by decide
    simp [Link.mem_roleKeywords, isExact_iff, hne, (hexact _).symm]
  case state_iff =>
    intro state
    rw [← hstates.mem_iff, Link.map_fst_roleKeywords, List.mem_append]
    constructor
    · rintro (hfront | hmem)
      · exact absurd ((Link.front_sublist _ _).subset hfront) state.keyword_not_mem
      · obtain ⟨other, hother, hkeyword⟩ := List.mem_map.1 hmem
        rwa [← AriaState.keyword_inj hkeyword]
    · exact fun hmem => .inr (List.mem_map_of_mem hmem)
  case value_iff =>
    intro state value
    simp only [Link.mem_roleKeywords, hname, hexact, false_and, false_or]
    constructor
    · rintro ⟨other, result, hmem, hkeyword, rfl⟩
      rw [← AriaState.keyword_inj hkeyword] at hmem
      obtain ⟨a, ha, hread⟩ := (hstates.value_iff state result).1 hmem
      exact ⟨a, result, ha, hread, rfl⟩
    · rintro ⟨a, result, ha, hread, rfl⟩
      exact ⟨state, result, (hstates.value_iff state result).2 ⟨a, ha, hread⟩, rfl, rfl⟩

namespace Description

variable {d : Description}

theorem link?_role (h : d.kind = ("role" : Text)) : d.link? = (fun states =>
    some (.role d.body d.options.roleName d.options.isExact states)) <$> d.options.states := by
  rw [link?, if_pos h]
  rfl

/-- What gives neither a name nor a state does not count. -/
theorem link?_pruned (h : d.kind = ("role" : Text)) : d.pruned.link? = d.link? := by
  have hpruned : d.pruned.kind = ("role" : Text) := h
  have hstates : d.pruned.options.states = d.options.states := by
    have hnamed : d.pruned.options.named = d.options.named := by
      rw [DescriptionOptions.named, pruned, List.filterMap_filter]
      refine List.filterMap_congr fun a _ => ?_
      cases a.state? <;> simp
    rw [DescriptionOptions.states_eq, DescriptionOptions.states_eq, hnamed]
  have hname : d.pruned.options.roleName = d.options.roleName := by
    have hfind : d.pruned.options.attributes.find? Attribute.givesName =
        d.options.attributes.find? Attribute.givesName := by
      rw [pruned, List.find?_filter]
      refine congrArg (d.options.attributes.find? ·) (funext fun a => ?_)
      cases a.givesName <;> simp
    rw [DescriptionOptions.roleName, DescriptionOptions.roleName,
      DescriptionOptions.find?_given, DescriptionOptions.find?_given, hfind]
    rfl
  rw [link?_role hpruned, link?_role h, hstates, hname]
  rfl

end Description

/-- The link of a role is a call with the arguments that its options give, and nothing else of its
attributes counts. -/
structure Description.IsRoleCall (d : Description) (link : Link) : Prop where
  apply_eq : ∃ keywords, d.options.HasKeywords keywords ∧
    ∀ root, link.apply root = Link.call root "get_by_role" d.body keywords
  pruned : d.pruned.link? = .ok (some link)

namespace Locator

/-- In every chain that has a locator each role is such a call. -/
theorem isRoleCall_of_described {members : Json.Members} {chain : List Description}
    {locator : Locator} (hrole : hasRole members = false)
    (hchain : (Json.object members).DescribesChain chain)
    (h : described (.object members) = .ok (some locator)) :
    List.Forall₂ (fun d link => d.kind = ("role" : Text) → d.IsRoleCall link) chain locator := by
  rw [described_of_describesChain hrole hchain, ofChain_eq_some_iff] at h
  refine h.imp fun d link hlink hkind => ⟨?_, (Description.link?_pruned hkind).trans hlink⟩
  rw [Description.link?_role hkind] at hlink
  obtain ⟨states, hstates, hsame⟩ := bind_eq_ok_iff.1 hlink
  cases hsame
  exact ⟨_, DescriptionOptions.hasKeywords_of_states hstates, fun root => rfl⟩

/-- A heading with two levels, two names, both spellings of a hidden one, an attribute without a
value and an unknown one. The first name and the last level count. -/
theorem isRoleCall_of_described_heading :
    let entry (name : Text) (value : Json) : Json :=
      .object [("name", .text name), ("value", value)]
    let attributes : Json := .list [entry "level" (.text "2"), entry "checked" .null,
      entry "include-hidden" (.bool false), entry "name" .null, entry "name" (.text "a"),
      entry "class" (.text "x"), entry "includeHidden" (.bool true), entry "level" (.text "3"),
      entry "name" (.text "b")]
    let members : Json.Members := [("kind", .text "role"), ("body", .text "heading"),
      ("options", .object [("attrs", attributes)])]
    let link : Link := .role "heading" (some "a") false
      [(.level, .number (.int 3)), (.includeHidden, .bool true)]
    hasRole members = false ∧ described (.object members) = .ok (some [link]) ∧
      ∃ chain, (Json.object members).DescribesChain chain ∧
        List.Forall₂ (fun d link => d.kind = ("role" : Text) → d.IsRoleCall link) chain [link] := by
  intro entry attributes members link
  have hdescribed : described (.object members) = .ok (some [link]) :=
    toOption_eq_some_iff.1 (by decide +kernel)
  have hchain := Description.chain?_eq_some_iff.1 (Option.eq_some_of_isSome
    (show (Description.chain? (.object members)).isSome by decide +kernel))
  exact ⟨rfl, hdescribed, _, hchain, isRoleCall_of_described rfl hchain hdescribed⟩

end Locator

end Playback
