import Playback.Event.Page
import Playback.Locator.Description
import Playback.Proofs.Assoc
import Playback.Proofs.Except
import Playback.Proofs.Locator.Steps

/-!
# Reading the code of a target

The code of a target is read in only one way: whatever the recorded texts hold, it shows the page,
the frames, and what each link of a description asked for.

* `Segment`: what the code of a link shows of it. `Description.segment?`: the segment of a link as
  it is described.
* `Step.written_append_inj`: a step shows what it is and where it ends, and
  `Step.map_segment?_eq`: so do several, one behind the other.
* `Locator.print_expression_inj`: targets with the same code are the same.
-/

namespace Playback

/-- What the code of a link shows of it. The states of a role are keywords with the texts of their
values. -/
inductive Segment where
  | role (role : Text) (name : Option Text) (exact : Bool) (states : List (Text × Text))
  | byText (target : TextTarget) (content : Text) (exact : Bool)
  | testId (id : Text)
  | selector (selector : Text)
  | nth (position : Int)
  | first
  | last
  deriving DecidableEq

/-- The kinds of a description, and the step that each stands for. -/
def StepKind.described : List (Text × StepKind) :=
  [("role", .role), ("text", .byText .text), ("label", .byText .label),
    ("placeholder", .byText .placeholder), ("alt", .byText .altText), ("title", .byText .title),
    ("default", .selector), ("css", .selector), ("testid", .testId), ("test-id", .testId),
    ("nth", .nth), ("first", .first), ("last", .last)]

/-- The segment of a link as it is described. -/
def Description.segment? (d : Description) : Option Segment :=
  match List.lookup d.kind StepKind.described with
  | some .role => d.options.states.toOption.map fun states =>
      .role d.body d.options.roleName d.options.isExact (Link.stateArguments states)
  | some (.byText target) => some (.byText target d.body d.options.isExact)
  | some .testId => some (.testId d.body)
  | some .selector => some (.selector d.body)
  | some .nth => (Integer.read d.body).toOption.map .nth
  | some .first => some .first
  | some .last => some .last
  | some .intoFrame | none => none

/-- The segment of a link. -/
def Link.segment : Link → Segment
  | .role r name exact states => .role r name exact (stateArguments states)
  | .byText target content exact => .byText target content exact
  | .testId id => .testId id
  | .selector s => .selector s
  | .nth position => .nth position
  | .first => .first
  | .last => .last

/-- The segment of a step, if it is along a link. -/
def Step.segment? : Step → Option Segment
  | .intoFrame => none
  | .link l => some l.segment

/-! ## The segments of a description -/

theorem Description.segment?_eq {d : Description} {link : Link}
    (h : d.link? = .ok (some link)) : d.segment? = some link.segment := by
  -- both try the kinds in the same order
  unfold link? at h
  split at h
  · next hkind =>
    obtain ⟨states, hstates, h⟩ := bind_eq_ok_iff.1 h
    cases h
    rw [segment?, hkind]
    show d.options.states.toOption.map _ = _
    rw [hstates]
    rfl
  split at h
  · next hkind =>
    cases h
    rcases hkind with hkind | hkind <;> (rw [segment?, hkind]; rfl)
  split at h
  · next target htarget =>
    cases h
    have hmem := mem_of_lookup htarget
    simp only [List.mem_cons, Prod.mk.injEq, List.not_mem_nil, or_false] at hmem
    rcases hmem with ⟨hkind, rfl⟩ | ⟨hkind, rfl⟩ | ⟨hkind, rfl⟩ | ⟨hkind, rfl⟩ | ⟨hkind, rfl⟩ <;>
      (rw [segment?, hkind]; rfl)
  split at h
  · next hkind =>
    cases h
    rcases hkind with hkind | hkind <;> (rw [segment?, hkind]; rfl)
  split at h
  · next hkind =>
    obtain ⟨position, hposition, h⟩ := bind_eq_ok_iff.1 h
    cases h
    rw [segment?, hkind.1]
    show (Integer.read d.body).toOption.map _ = _
    rw [hposition]
    rfl
  split at h
  · next hkind =>
    cases h
    rw [segment?, hkind]
    rfl
  split at h
  · next hkind =>
    cases h
    rw [segment?, hkind]
    rfl
  · cases h

/-- A chain with a locator has segments, those of the links. -/
theorem Description.map_segment?_eq {chain : List Description} {locator : Locator}
    (h : Locator.ofChain chain = .ok (some locator)) :
    chain.map segment? = (locator.map Link.segment).map some := by
  induction chain generalizing locator with
  | nil =>
    cases h
    rfl
  | cons d chain ih =>
    rw [Locator.ofChain] at h
    obtain ⟨link?, hlink, h⟩ := bind_eq_ok_iff.1 h
    cases link? with
    | none => cases h
    | some link =>
      obtain ⟨rest?, hrest, h⟩ := bind_eq_ok_iff.1 h
      obtain ⟨rest, rfl, rfl⟩ := Option.map_eq_some_iff.1 (Except.ok.inj h)
      rw [List.map_cons, segment?_eq hlink, ih hrest]
      rfl

/-! ## The arguments of a step -/

theorem AriaState.isName_keyword (state : AriaState) : state.keyword.IsName := by
  cases state <;> decide

theorem StateValue.isValue_print (value : StateValue) : value.expression.print.IsValue := by
  cases value with
  | bool value => cases value <;> exact .numeric (by decide)
  | number value => exact .numeric value.isNumeric_shown
  | text value => exact .literal value

namespace Link

variable {exact exact' : Bool} {states states' : List (AriaState × StateValue)}

/-- No state has the keyword of the name or that of an exact match. -/
theorem not_mem_keywords (states : List (AriaState × StateValue)) {keyword : Text}
    (h : keyword = ("name" : Text) ∨ keyword = ("exact" : Text)) :
    keyword ∉ (stateArguments states).map Prod.fst := by
  have hstate (state : AriaState) : state.keyword ≠ keyword := by
    rcases h with rfl | rfl <;> cases state <;> decide
  simp [stateArguments, hstate]

theorem areKeywords_optional {keyword : Text} {value : Option Text} (hk : keyword.IsName)
    (hv : ∀ v ∈ value, v.IsValue) : AreKeywords (optionalArgument keyword value) := by
  cases value with
  | none => exact fun _ => nofun
  | some v => exact List.forall_mem_singleton.2 ⟨hk, hv v rfl⟩

theorem areKeywords_exact (exact : Bool) : AreKeywords (exactArgument exact) := by
  refine areKeywords_optional (by decide) ?_
  cases exact with
  | false => exact fun _ => nofun
  | true => simpa using .numeric (by decide)

theorem areKeywords_role (name : Option Text) (exact : Bool)
    (states : List (AriaState × StateValue)) : AreKeywords (roleArguments name exact states) := by
  have hname : ∀ v ∈ name.map Quoted.encode, v.IsValue := by
    intro v hv
    obtain ⟨n, -, rfl⟩ := Option.map_eq_some_iff.1 hv
    exact .literal n
  have hstates : AreKeywords (stateArguments states) := by
    intro argument h
    obtain ⟨⟨state, value⟩, -, rfl⟩ := List.mem_map.1 h
    exact ⟨state.isName_keyword, value.isValue_print⟩
  exact List.forall_mem_append.2 ⟨areKeywords_optional (by decide) hname,
    List.forall_mem_append.2 ⟨areKeywords_exact exact, hstates⟩⟩

theorem exact_of_optional {exact exact' : Bool}
    (h : (if exact then some ("True" : Text) else none) =
      if exact' then some ("True" : Text) else none) : exact = exact' := by
  cases exact <;> cases exact' <;> first | rfl | cases h

theorem exactArgument_inj (h : exactArgument exact = exactArgument exact') : exact = exact' := by
  have hnone {keyword : Text} : keyword ∉ ([] : List (Text × Text)).map Prod.fst := by simp
  have h' := congrArg (· ++ []) h
  exact exact_of_optional (optionalArgument_append_inj hnone hnone h').1

/-- The arguments of a role show its name, whether that has to match exactly, and the states. -/
theorem roleArguments_inj {name name' : Option Text}
    (h : roleArguments name exact states = roleArguments name' exact' states') :
    name = name' ∧ exact = exact' ∧ stateArguments states = stateArguments states' := by
  have hbehind (exact : Bool) (states : List (AriaState × StateValue)) :
      ("name" : Text) ∉ (exactArgument exact ++ stateArguments states).map Prod.fst := by
    rw [List.map_append, List.mem_append, not_or]
    exact ⟨by cases exact <;> decide, not_mem_keywords states (.inl rfl)⟩
  obtain ⟨hname, h⟩ := optionalArgument_append_inj (hbehind _ _) (hbehind _ _) h
  obtain ⟨hexact, hstates⟩ := optionalArgument_append_inj (not_mem_keywords states (.inr rfl))
    (not_mem_keywords states' (.inr rfl)) h
  exact ⟨Option.map_injective Quoted.encode_injective hname, exact_of_optional hexact, hstates⟩

end Link

/-! ## Reading steps -/

namespace Step

/-- A call shows its text and its arguments, and where it ends. -/
theorem called_append_inj {content content' rest rest' : Text}
    {keywords keywords' : List (Text × Text)} (hk : AreKeywords keywords)
    (hk' : AreKeywords keywords')
    (h : called content keywords ++ rest = called content' keywords' ++ rest') :
    content = content' ∧ keywords = keywords' ∧ rest = rest' := by
  simp only [called, List.cons_append, List.append_assoc, List.nil_append, List.cons.injEq,
    true_and] at h
  obtain ⟨hcontent, h⟩ := Quoted.encode_append_inj h
  exact ⟨hcontent, keywordsBehind_append_inj hk hk' h⟩

theorem position_append_inj {i j : Int} {rest rest' : Text}
    (h : Text.ofInt i ++ .char ')' :: rest = Text.ofInt j ++ .char ')' :: rest') :
    i = j ∧ rest = rest' := by
  have hbracket := Text.endsNumeric_cons (p := CodePoint.char ')') (by decide)
  obtain ⟨hi, hrest⟩ :=
    (Text.isNumeric_ofInt i).append_inj (Text.isNumeric_ofInt j) (hbracket rest) (hbracket rest') h
  exact ⟨Text.ofInt_inj hi, (List.cons.inj hrest).2⟩

/-- Behind the name of its kind a step shows the rest of what it is, and where it ends. -/
theorem arguments_append_inj {step step' : Step} {rest rest' : Text}
    (hkind : step.kind = step'.kind) (h : step.arguments ++ rest = step'.arguments ++ rest') :
    step.segment? = step'.segment? ∧ rest = rest' := by
  have hnone : AreKeywords [] := fun _ => nofun
  -- Steps of the same kind have the same constructor.
  match step, step', hkind with
  | .intoFrame, .intoFrame, _ | .link .first, .link .first, _ | .link .last, .link .last, _ =>
    exact ⟨rfl, h⟩
  | .link (.role ..), .link (.role ..), _ =>
    obtain ⟨rfl, hkeywords, hrest⟩ :=
      called_append_inj (Link.areKeywords_role _ _ _) (Link.areKeywords_role _ _ _) h
    obtain ⟨rfl, rfl, hstates⟩ := Link.roleArguments_inj hkeywords
    exact ⟨by simp only [segment?, Link.segment, hstates], hrest⟩
  | .link (.byText ..), .link (.byText ..), htarget =>
    cases htarget
    obtain ⟨rfl, hkeywords, hrest⟩ :=
      called_append_inj (Link.areKeywords_exact _) (Link.areKeywords_exact _) h
    rw [Link.exactArgument_inj hkeywords]
    exact ⟨rfl, hrest⟩
  | .link (.testId _), .link (.testId _), _ | .link (.selector _), .link (.selector _), _ =>
    obtain ⟨rfl, -, hrest⟩ := called_append_inj hnone hnone h
    exact ⟨rfl, hrest⟩
  | .link (.nth _), .link (.nth _), _ =>
    simp only [arguments, List.cons_append, List.append_assoc, List.nil_append, List.cons.injEq,
      true_and] at h
    obtain ⟨rfl, hrest⟩ := position_append_inj h
    exact ⟨rfl, hrest⟩

/-- A step shows what it is and where it ends. -/
theorem written_append_inj {step step' : Step} {rest rest' : Text} (hr : rest.EndsName)
    (hr' : rest'.EndsName) (h : step.written ++ rest = step'.written ++ rest') :
    step.segment? = step'.segment? ∧ rest = rest' := by
  simp only [written, List.cons_append, List.append_assoc, List.cons.injEq, true_and] at h
  obtain ⟨hname, h⟩ := step.kind.isName_name.append_inj step'.kind.isName_name
    (step.endsName_arguments hr) (step'.endsName_arguments hr') h
  exact arguments_append_inj (StepKind.name_inj hname) h

/-- Steps one behind the other show what each of them is. -/
theorem map_segment?_eq {steps steps' : List Step}
    (h : steps.flatMap written = steps'.flatMap written) :
    steps.map segment? = steps'.map segment? := by
  have hends (steps : List Step) : Text.EndsName (steps.flatMap written) := by
    simpa using endsName_written steps Text.endsName_nil
  induction steps generalizing steps' with
  | nil =>
    cases steps' with
    | nil => rfl
    | cons step' steps' => cases h
  | cons step steps ih =>
    cases steps' with
    | nil => cases h
    | cons step' steps' =>
      rw [List.flatMap_cons, List.flatMap_cons] at h
      obtain ⟨hstep, hrest⟩ := written_append_inj (hends steps) (hends steps') h
      rw [List.map_cons, List.map_cons, hstep, ih hrest]

/-- Steps along a way show its frames and the segments of its locator: only frames are entered. -/
theorem along_inj {path path' : List Text} {locator locator' : Locator}
    (h : (along path locator).map segment? = (along path' locator').map segment?) :
    path = path' ∧ locator.map Link.segment = locator'.map Link.segment := by
  have hlinks (locator : Locator) : (along [] locator).map segment? =
      (locator.map Link.segment).map some := by
    simp [along, segment?]
  have hframe (selector : Text) (path : List Text) (locator : Locator) :
      (along (selector :: path) locator).map segment? =
        some (.selector selector) :: none :: (along path locator).map segment? := rfl
  have hentered (segments : List Segment) (first : Option Segment) (rest : List (Option Segment)) :
      segments.map some ≠ first :: none :: rest := by
    intro h
    have : none ∈ segments.map some := by simp [h]
    simp at this
  induction path generalizing path' with
  | nil =>
    rw [hlinks] at h
    cases path' with
    | nil =>
      rw [hlinks] at h
      exact ⟨rfl, List.map_injective_iff.2 (fun _ _ => Option.some.inj) h⟩
    | cons selector' path' => exact absurd h (hentered _ _ _)
  | cons selector path ih =>
    rw [hframe] at h
    cases path' with
    | nil =>
      rw [hlinks] at h
      exact absurd h.symm (hentered _ _ _)
    | cons selector' path' =>
      simp only [hframe, List.cons.injEq, Option.some.injEq, Segment.selector.injEq, true_and] at h
      obtain ⟨rfl, hlocator⟩ := ih h.2
      exact ⟨by rw [h.1], hlocator⟩

end Step

/-! ## Reading targets -/

/-- The code of a target shows its page, its frames, and the segments of its locator. -/
theorem Locator.segments_of_print {pageAlias pageAlias' : Text} {path path' : List Text}
    {locator locator' : Locator}
    (h : (locator.expression ((Expression.name (pageName pageAlias)).inFrames path)).print =
      (locator'.expression ((Expression.name (pageName pageAlias')).inFrames path')).print) :
    pageName pageAlias = pageName pageAlias' ∧ path = path' ∧
      locator.map Link.segment = locator'.map Link.segment := by
  have hends (steps : List Step) : Text.EndsName (steps.flatMap Step.written) := by
    simpa using Step.endsName_written steps Text.endsName_nil
  rw [print_expression, print_expression] at h
  obtain ⟨hpage, hsteps⟩ := (isName_pageName pageAlias).append_inj (isName_pageName pageAlias')
    (hends _) (hends _) h
  exact ⟨hpage, Step.along_inj (Step.map_segment?_eq hsteps)⟩

end Playback
