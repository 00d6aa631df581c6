import Playback.Proofs.Code.Snippet
import Playback.Proofs.Program

/-!
# Programs as code

* `Import.mem_importsOf`: all that a program imports is the function of the driver and, where
  something is asserted, that of assertions.
* `Snippet.isCode_importsOf`: the lines of the imports are code.
* `Header.isCode_enclose`: the lines of the actions and of the blocks around them are code too.
-/

namespace Playback

namespace Import

theorem eq_assertionImport {event : Event} {snippet : Snippet} {needed : Import}
    (h : event.snippet.result = .ok snippet) (hi : needed ∈ snippet.imports) :
    needed = assertionImport := by
  obtain ⟨own, kinds, hown, -, rfl⟩ := Event.snippet_eq_ok_iff.1 h
  rw [Snippet.imports_surroundedAll] at hi
  rcases Event.actionSnippet_eq_ok_iff.1 hown with ⟨_, -, rfl⟩ | ⟨_, _, -, -, rfl⟩ |
    ⟨_, _, -, -, rfl⟩
  · cases hi
  · cases hi
  · exact List.mem_singleton.1 hi

/-- What a program imports: the function of the driver, and that of assertions. -/
theorem mem_importsOf {events : List Event} {snippets : List Snippet}
    (h : Event.HaveSnippets events snippets) :
    ∀ statement ∈ Snippet.importsOf snippets, ∃ names, statement = .fromImport driverModule names ∧
      ∀ name ∈ names, name = launchImport.name ∨ name = assertionImport.name := by
  unfold Snippet.importsOf
  generalize hneeded : launchImport :: snippets.flatMap Snippet.imports = imports
  have hall : ∀ needed ∈ imports, needed = launchImport ∨ needed = assertionImport := by
    rw [← hneeded]
    refine List.forall_mem_cons.2 ⟨.inl rfl, fun needed hmem => .inr ?_⟩
    obtain ⟨snippet, hsnippet, hi⟩ := List.mem_flatMap.1 hmem
    obtain ⟨event, -, hevent⟩ := h.exists_event hsnippet
    exact eq_assertionImport hevent hi
  intro statement hs
  obtain ⟨source, hsource, rfl⟩ := List.mem_map.1 hs
  obtain ⟨needed, hmem, rfl⟩ := List.mem_map.1 (Text.mem_sortedSet.1 hsource)
  refine ⟨namesFrom imports needed.source, ?_, ?_⟩
  · rcases hall needed hmem with rfl | rfl <;> rfl
  · intro name hname
    obtain ⟨other, hother, rfl⟩ := List.mem_map.1 (Text.mem_sortedSet.1 hname)
    rcases hall other (List.mem_of_mem_filter hother) with rfl | rfl
    exacts [.inl rfl, .inr rfl]

end Import

/-- The lines of the imports are code. -/
theorem Snippet.isCode_importsOf {events : List Event} {snippets : List Snippet}
    (h : Event.HaveSnippets events snippets) :
    ∀ statement ∈ importsOf snippets, ∃ values, Text.IsCode statement.line values := by
  intro statement hs
  obtain ⟨names, rfl, hnames⟩ := Import.mem_importsOf h statement hs
  have hplain : (Statement.fromImport driverModule names).HasPlainNames := by
    refine ⟨by decide, fun name hname => ?_⟩
    rcases hnames name hname with rfl | rfl <;> decide
  exact ⟨_, Statement.isCode_line hplain⟩

theorem isPlain_indentationOf (depth : Nat) : Text.IsPlain (Statement.indentationOf depth) := by
  rw [Statement.indentationOf_eq]
  intro p hp
  rw [List.eq_of_mem_replicate hp]
  decide

namespace Header

theorem hasPlainNames_scopes (header : Header) :
    ∀ statement ∈ header.scopes, statement.HasPlainNames := by
  have hbrowser : Text.IsPlain header.browser.name := by
    cases header.browser <;> decide
  have hpw : (Expression.name "pw").HasPlainNames := show Text.IsPlain ("pw" : Text) from by decide
  unfold scopes
  simp only [List.forall_mem_cons, List.not_mem_nil, false_implies, implies_true, and_true]
  refine ⟨⟨⟨?_, trivial, trivial⟩, by decide⟩,
    ⟨⟨⟨⟨hpw, hbrowser⟩, by decide⟩, trivial, by decide, trivial, trivial⟩, by decide⟩,
    ⟨⟨⟨?_, by decide⟩, trivial, trivial⟩, by decide⟩,
    ⟨⟨⟨?_, by decide⟩, trivial, trivial⟩, by decide⟩⟩
  · show Text.IsPlain launchImport.name
    decide
  · show Text.IsPlain ("browser" : Text)
    decide
  · show Text.IsPlain ("ctx" : Text)
    decide

/-- The actions and the headers of the blocks around them are code. -/
theorem isCode_enclose {snippets : List Snippet} (h : ∀ snippet ∈ snippets, snippet.IsCode)
    (header : Header) (depth : Nat) :
    ∀ line ∈ header.enclose depth snippets, ∃ values, Text.IsCode line values := by
  intro line hline
  rcases List.mem_append.1 hline with hline | hline
  · obtain ⟨inner, hinner, rfl⟩ := List.mem_map.1 hline
    obtain ⟨⟨statement, around⟩, hs, rfl⟩ := List.mem_map.1 hinner
    have hplain := header.hasPlainNames_scopes statement (List.fst_mem_of_mem_zipIdx hs)
    have hcode := (isPlain_indentationOf around).isCode.append (statement.isCode_line hplain)
    exact ⟨_, hcode.indented (isPlain_indentationOf depth)⟩
  · obtain ⟨inner, hinner, rfl⟩ := List.mem_map.1 hline
    have hcode : ∃ values, Text.IsCode inner values := by
      have hpass : ∃ values, Text.IsCode Statement.pass.line values :=
        ⟨_, Statement.pass.isCode_line trivial⟩
      have hlines : ∀ line ∈ Snippet.linesOf snippets, ∃ values, Text.IsCode line values := by
        intro line hline
        obtain ⟨snippet, hs, hline⟩ := List.mem_flatMap.1 hline
        exact h snippet hs line hline
      unfold Snippet.filledLines at hinner
      split at hinner
      · exact hlines inner hinner
      · rcases List.mem_append.1 hinner with hinner | hinner
        · exact hlines inner hinner
        · rw [List.mem_singleton.1 hinner]
          exact hpass
    obtain ⟨values, hv⟩ := hcode
    exact ⟨values, hv.indented (isPlain_indentationOf _)⟩

end Header

end Playback
