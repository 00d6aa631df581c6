import Playback.Event.Snippet
import Playback.Proofs.Run

/-!
# When an event has a snippet

* `Event.actionSnippet_eq_ok_iff`: the code of an action is that of a page, an interaction or an
  assertion; the last two need the locator of a target.
* `Snippet.surroundAll_eq_ok_iff`: signals have code around an action if all their names are known,
  and it is put around the action kind by kind.
* `Event.snippet_eq_ok_iff`: the two together.
-/

namespace Playback

namespace Event

/-- The event has a target with this locator. -/
def HasLocator (event : Event) (locator : Locator) : Prop :=
  ∃ log, Locator.ofTarget event.selector event.locator = .ok (locator, log)

theorem target_eq_ok_iff {event : Event} {target : Expression} :
    event.target.result = .ok target ↔
      ∃ locator, event.HasLocator locator ∧ target = locator.expression event.root := by
  unfold Event.target Event.HasLocator
  cases h : Locator.ofTarget event.selector event.locator with
  | error fault => simp
  | ok found =>
    obtain ⟨locator, log⟩ := found
    simp only [Run.result_bind_eq_ok, Run.result_notices, Run.result_pure, Except.ok.injEq,
      exists_const, Prod.mk.injEq]
    constructor
    · intro h
      exact ⟨locator, ⟨log, rfl, rfl⟩, h.2.symm⟩
    · rintro ⟨_, ⟨_, rfl, rfl⟩, rfl⟩
      exact ⟨trivial, rfl⟩

/-- The code of an action, without its signals: what the action does to a page, to a target, or what
it asserts about a target. -/
theorem actionSnippet_eq_ok_iff {event : Event} {own : Snippet} :
    event.actionSnippet.result = .ok own ↔
      (∃ action, Action.ofName? event.name = some (.page action) ∧
        own = .ofStatements (action.statements event) []) ∨
      (∃ action locator, Action.ofName? event.name = some (.interaction action) ∧
        event.HasLocator locator ∧
        own = .ofStatements [.expression (action.expression event (locator.expression event.root))]
          []) ∨
      ∃ action locator, Action.ofName? event.name = some (.assertion action) ∧
        event.HasLocator locator ∧
        own = .ofStatements [.expression (action.expression event (locator.expression event.root))]
          [assertionImport] := by
  unfold actionSnippet
  rcases hname : Action.ofName? event.name with _ | (action | action | action)
  · simp
  · simp [eq_comm]
  · simp only [Run.result_bind_eq_ok, target_eq_ok_iff, Run.result_pure]
    constructor
    · rintro ⟨_, ⟨locator, hl, rfl⟩, h⟩
      exact .inr (.inl ⟨action, locator, rfl, hl, (Except.ok.inj h).symm⟩)
    · rintro (⟨_, h, -⟩ | ⟨_, locator, h, hl, rfl⟩ | ⟨_, _, h, -⟩) <;> cases h
      exact ⟨_, ⟨locator, hl, rfl⟩, rfl⟩
  · simp only [Run.result_bind_eq_ok, target_eq_ok_iff, Run.result_pure]
    constructor
    · rintro ⟨_, ⟨locator, hl, rfl⟩, h⟩
      exact .inr (.inr ⟨action, locator, rfl, hl, (Except.ok.inj h).symm⟩)
    · rintro (⟨_, h, -⟩ | ⟨_, _, h, -⟩ | ⟨_, locator, h, hl, rfl⟩) <;> cases h
      exact ⟨_, ⟨locator, hl, rfl⟩, rfl⟩

end Event

namespace Snippet

/-- The snippet with the code of signals of several kinds around it, the first of them innermost. -/
def surroundedAll (snippet : Snippet) (page : Text) (kinds : List SignalKind) : Snippet :=
  kinds.foldl (fun snippet kind => snippet.surrounded page kind) snippet

theorem surroundAll_eq_ok_iff {snippet result : Snippet} {page : Text} {record : Json.Members}
    {names : List Text} :
    snippet.surroundAll page record names = .ok result ↔
      ∃ kinds, names.map SignalKind.ofName? = kinds.map some ∧
        result = snippet.surroundedAll page kinds := by
  unfold surroundAll surroundedAll
  induction names generalizing snippet with
  | nil =>
    constructor
    · intro h
      exact ⟨[], rfl, (Except.ok.inj h).symm⟩
    · rintro ⟨kinds, hk, rfl⟩
      rw [List.map_eq_nil_iff.1 hk.symm]
      rfl
  | cons name names ih =>
    rw [List.foldlM_cons, surround]
    cases hname : SignalKind.ofName? name with
    | none =>
      constructor
      · intro h
        cases h
      · rintro ⟨kinds, hk, -⟩
        cases kinds <;> simp [hname] at hk
    | some kind =>
      refine (@ih (snippet.surrounded page kind)).trans ?_
      constructor
      · rintro ⟨kinds, hk, rfl⟩
        exact ⟨kind :: kinds, by simp [hname, hk], rfl⟩
      · rintro ⟨kinds, hk, rfl⟩
        cases kinds with
        | nil => cases hk
        | cons first kinds =>
          obtain ⟨hfirst, hrest⟩ := List.cons_eq_cons.1 hk
          cases hname.symm.trans hfirst
          exact ⟨kinds, hrest, rfl⟩

/-- What every kind of signal keeps, signals of several kinds keep. -/
theorem surroundedAll_induction {P : Snippet → Prop} {page : Text} {kinds : List SignalKind}
    {snippet : Snippet} (h : P snippet)
    (step : ∀ snippet kind, P snippet → P (snippet.surrounded page kind)) :
    P (snippet.surroundedAll page kinds) := by
  unfold surroundedAll
  induction kinds generalizing snippet with
  | nil => exact h
  | cons kind kinds ih => exact ih (step snippet kind h)

theorem imports_surroundedAll (own : Snippet) (page : Text) (kinds : List SignalKind) :
    (own.surroundedAll page kinds).imports = own.imports := by
  refine surroundedAll_induction (P := fun around => around.imports = own.imports) rfl ?_
  intro around kind h
  cases kind <;> exact h

end Snippet

namespace Event

/-- The kinds of an event's signals. -/
def HasSignals (event : Event) (kinds : List SignalKind) : Prop :=
  (event.signals.map Signal.name).map SignalKind.ofName? = kinds.map some

theorem snippet_eq_ok_iff {event : Event} {snippet : Snippet} :
    event.snippet.result = .ok snippet ↔ ∃ own kinds, event.actionSnippet.result = .ok own ∧
      event.HasSignals kinds ∧ snippet = own.surroundedAll event.page kinds := by
  rw [Event.snippet, Run.result_bind_eq_ok]
  simp only [Run.result_ofExcept, Snippet.surroundAll_eq_ok_iff]
  constructor
  · rintro ⟨own, ho, kinds, hk, rfl⟩
    exact ⟨own, kinds, ho, hk, rfl⟩
  · rintro ⟨own, kinds, ho, hk, rfl⟩
    exact ⟨own, ho, kinds, hk, rfl⟩

end Event

end Playback
