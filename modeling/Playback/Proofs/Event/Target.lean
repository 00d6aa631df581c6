import Playback.Proofs.Event.Snippet
import Playback.Proofs.Locator.Target
import Playback.Proofs.Recording.Replaced

/-!
# What an event does with its target

An action that is about a target looks it up once, whatever else the event has, and what it makes of
the target does not look at the selector or the description again.

* `Event.atTarget?`: what an action makes of its target; nothing for an action on a page.
* `Event.targetLog`, `Event.snippet_eq_of_ok`: what is logged while the snippet of an event is made.
* `Event.snippet_withTarget`: with another selector and another description that lead to the same
  target, the snippet is the same.
* `Event.target_of_described`, `Event.target_of_not_described`, `Event.target_of_nothing`: the
  target and the warnings about it, by what the event has of the two.
* `Event.snippet_of_described`, `Event.snippet_of_not_described`: the snippet where the selector
  beside a description is replaced, or the description beside a selector is taken away.
-/

namespace Playback

namespace Event

variable {event : Event} {selector : Option Text} {description : Json}

/-- What the action of an event makes of its target, if it is about one. -/
def atTarget? (event : Event) : Option (Expression → Snippet) :=
  match Action.ofName? event.name with
  | some (.interaction action) =>
    some fun target => .ofStatements [.expression (action.expression event target)] []
  | some (.assertion action) =>
    some fun target =>
      .ofStatements [.expression (action.expression event target)] [assertionImport]
  | _ => none

/-- What is logged about the target of an event, if its action is about one. -/
def targetLog (event : Event) : Log := if event.atTarget?.isSome then event.target.log else []

/-- The description of the event's target has a locator. -/
def IsDescribed (event : Event) : Prop :=
  ∃ locator, Locator.described event.locator = .ok (some locator)

/-! ## The target in the snippet -/

theorem actionSnippet_of_atTarget {make : Expression → Snippet} (h : event.atTarget? = some make) :
    event.actionSnippet = (do return make (← event.target)) := by
  unfold atTarget? at h
  unfold actionSnippet
  rcases hname : Action.ofName? event.name with _ | (action | action | action) <;>
    rw [hname] at h <;> cases h <;> rfl

/-- An event with no action on a target has one on a page, or none that is known. -/
theorem name_of_atTarget?_eq_none (h : event.atTarget? = none) :
    Action.ofName? event.name = none ∨
      ∃ action, Action.ofName? event.name = some (.page action) := by
  unfold atTarget? at h
  rcases hname : Action.ofName? event.name with _ | (action | action | action)
  · exact .inl rfl
  · exact .inr ⟨action, rfl⟩
  · rw [hname] at h
    cases h
  · rw [hname] at h
    cases h

/-- Its code, if there is any, is that of an action on a page. -/
theorem actionSnippet_eq_ok_iff_page (h : event.atTarget? = none) {own : Snippet} :
    event.actionSnippet.result = .ok own ↔ ∃ action,
      Action.ofName? event.name = some (.page action) ∧
        own = .ofStatements (action.statements event) [] := by
  rw [actionSnippet_eq_ok_iff]
  rcases name_of_atTarget?_eq_none h with hname | ⟨action, hname⟩ <;> simp [hname]

theorem atTarget?_withTarget (event : Event) (selector : Option Text) (description : Json) :
    (event.withTarget selector description).atTarget? = event.atTarget? := by
  have hname : (event.withTarget selector description).name = event.name := rfl
  unfold atTarget?
  rw [hname]
  rcases Action.ofName? event.name with _ | (action | action | action) <;> rfl

/-- With another selector and another description that lead to the same target the action is the
same. -/
theorem actionSnippet_withTarget
    (h : event.atTarget?.isSome →
      (event.withTarget selector description).target.result = event.target.result)
    {own : Snippet} : (event.withTarget selector description).actionSnippet.result = .ok own ↔
      event.actionSnippet.result = .ok own := by
  have hmake := event.atTarget?_withTarget selector description
  cases hmade : event.atTarget? with
  | none =>
    rw [actionSnippet_eq_ok_iff_page (hmake.trans hmade), actionSnippet_eq_ok_iff_page hmade]
    rfl
  | some make =>
    rw [actionSnippet_of_atTarget (hmake.trans hmade), actionSnippet_of_atTarget hmade,
      Run.result_bind, Run.result_bind, h (by rw [hmade]; rfl)]

/-- So is the snippet. -/
theorem snippet_withTarget
    (h : event.atTarget?.isSome →
      (event.withTarget selector description).target.result = event.target.result)
    {snippet : Snippet} : (event.withTarget selector description).snippet.result = .ok snippet ↔
      event.snippet.result = .ok snippet := by
  rw [snippet_eq_ok_iff, snippet_eq_ok_iff]
  simp only [actionSnippet_withTarget h]
  rfl

/-- A snippet of an action about a target has one. -/
theorem exists_target_of_snippet {make : Expression → Snippet} {snippet : Snippet}
    (hmake : event.atTarget? = some make) (h : event.snippet.result = .ok snippet) :
    ∃ target, event.target.result = .ok target := by
  obtain ⟨own, hown, -⟩ := Run.result_bind_eq_ok.1 h
  rw [actionSnippet_of_atTarget hmake] at hown
  obtain ⟨target, htarget, -⟩ := Run.result_bind_eq_ok.1 hown
  exact ⟨target, htarget⟩

/-! ## What is logged -/

theorem log_actionSnippet (event : Event) : event.actionSnippet.log = event.targetLog := by
  unfold targetLog
  cases hmade : event.atTarget? with
  | some make =>
    rw [actionSnippet_of_atTarget hmade, Option.isSome_some, if_pos rfl]
    cases htarget : event.target.result with
    | ok target =>
      rw [Run.bind_of_ok htarget]
      exact List.append_nil _
    | error error => rw [Run.bind_of_error htarget]
  | none =>
    rw [Option.isSome_none, if_neg Bool.false_ne_true]
    unfold actionSnippet
    rcases name_of_atTarget?_eq_none hmade with hname | ⟨action, hname⟩ <;>
      rw [hname] <;> rfl

/-- While a snippet is made, the target is looked up once, and nothing else is logged. -/
theorem snippet_eq_of_ok {snippet : Snippet} (h : event.snippet.result = .ok snippet) :
    event.snippet = ⟨event.targetLog, .ok snippet⟩ := by
  obtain ⟨own, hown, hsignals⟩ := Run.result_bind_eq_ok.1 h
  rw [Event.snippet, Run.bind_of_ok hown, hsignals, log_actionSnippet]
  exact congrArg (Run.mk · _) (List.append_nil _)

/-! ## The target -/

theorem target_of_ofTarget {locator : Locator} {log : Log}
    (h : Locator.ofTarget event.selector event.locator = .ok (locator, log)) :
    event.target = ⟨log, .ok (locator.expression event.root)⟩ := by
  unfold Event.target
  rw [h]
  exact congrArg (Run.mk · _) (List.append_nil _)

/-- A description with a locator is all that is looked at. -/
theorem target_of_described (h : event.IsDescribed) (selector : Option Text) :
    (event.withTarget selector event.locator).target = event.target := by
  obtain ⟨locator, hlocator⟩ := h
  rw [target_of_ofTarget (Locator.ofTarget_of_locator hlocator event.selector),
    target_of_ofTarget (Locator.ofTarget_of_locator hlocator selector)]
  rfl

/-- A description without a locator leads to the target of the selector, as no description does, and
to a warning that shows it. -/
theorem target_of_not_described {target : Expression} (h : ¬ event.IsDescribed)
    (hnull : event.locator.isNull = false) (hselector : event.selector.getD [] ≠ [])
    (htarget : event.target.result = .ok target) :
    event.target = ⟨[.unknownDescription event.locator], .ok target⟩ ∧
      (event.withTarget event.selector .null).target = ⟨[], .ok target⟩ := by
  have hnone : Locator.described event.locator = .ok none := by
    obtain ⟨_, ⟨_, hfound⟩, -⟩ := target_eq_ok_iff.1 htarget
    obtain ⟨locator?, hlocator⟩ := Locator.exists_described_of_ofTarget hnull hfound
    cases locator? with
    | none => exact hlocator
    | some locator => exact absurd ⟨locator, hlocator⟩ h
  cases hraw : event.selector with
  | none => exact absurd (congrArg (Option.getD · []) hraw) hselector
  | some raw =>
    have hne : raw ≠ [] := by rwa [hraw] at hselector
    have hfound : Locator.ofTarget event.selector event.locator =
        .ok ([Selector.link raw], [.unknownDescription event.locator]) := by
      rw [hraw]
      exact Locator.ofTarget_of_not_described hnull hnone hne
    have hplainFound : Locator.ofTarget (some raw) .null = .ok ([Selector.link raw], []) :=
      congrArg Except.ok (Locator.withoutDescription_of_ne_nil hne)
    have hpassed := target_of_ofTarget hfound
    have hplain : (event.withTarget (some raw) .null).target =
        ⟨[], .ok (Locator.expression event.root [Selector.link raw])⟩ :=
      target_of_ofTarget hplainFound
    rw [hpassed] at htarget
    cases htarget
    exact ⟨hpassed, hplain⟩

/-- With neither of them the empty selector is looked for, with a warning. -/
theorem target_of_nothing (hnull : event.locator = .null)
    (hselector : event.selector.getD [] = []) :
    event.target = ⟨[.noTarget], .ok (event.root.invoke "locator" [.text []])⟩ := by
  have hfound : Locator.ofTarget event.selector event.locator =
      .ok ([.selector []], [.noTarget]) := by
    rw [hnull]
    exact congrArg Except.ok (Locator.withoutDescription_of_empty hselector)
  exact target_of_ofTarget hfound

/-! ## The snippet and its log -/

/-- Beside a description with a locator any selector will do. -/
theorem snippet_of_described (h : event.IsDescribed) (selector : Option Text) {snippet : Snippet}
    (hsnippet : event.snippet.result = .ok snippet) :
    (event.withTarget selector event.locator).snippet.result = .ok snippet ∧
      (event.withTarget selector event.locator).targetLog = event.targetLog := by
  have hsame := target_of_described h selector
  refine ⟨(snippet_withTarget fun _ => congrArg Run.result hsame).2 hsnippet, ?_⟩
  rw [targetLog, targetLog, atTarget?_withTarget, hsame]

/-- A description without a locator that is taken away from beside a selector takes one warning
with it, if the action is about a target. -/
theorem snippet_of_not_described (h : ¬ event.IsDescribed) (hnull : event.locator.isNull = false)
    (hselector : event.selector.getD [] ≠ []) {snippet : Snippet}
    (hsnippet : event.snippet.result = .ok snippet) :
    (event.withTarget event.selector .null).snippet.result = .ok snippet ∧
      (event.withTarget event.selector .null).targetLog = [] ∧
      event.targetLog =
        if event.atTarget?.isSome then [.unknownDescription event.locator] else [] := by
  cases hmade : event.atTarget? with
  | none =>
    have hlog : event.targetLog = [] := by
      rw [targetLog, hmade]
      rfl
    have hplainLog : (event.withTarget event.selector .null).targetLog = [] := by
      rw [targetLog, atTarget?_withTarget, hmade]
      rfl
    refine ⟨(snippet_withTarget fun hsome => ?_).2 hsnippet, hplainLog, hlog⟩
    rw [hmade] at hsome
    cases hsome
  | some make =>
    obtain ⟨target, hlooked⟩ := exists_target_of_snippet hmade hsnippet
    obtain ⟨hown, hplain⟩ := target_of_not_described h hnull hselector hlooked
    have hsame : (event.withTarget event.selector .null).target.result = event.target.result := by
      rw [hown, hplain]
    refine ⟨(snippet_withTarget fun _ => hsame).2 hsnippet, ?_, ?_⟩
    · rw [targetLog, atTarget?_withTarget, hmade, hplain]
      rfl
    · rw [targetLog, hmade, hown]

end Event

end Playback
