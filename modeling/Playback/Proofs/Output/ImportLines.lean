import Mathlib.Data.List.Nodup
import Playback.Proofs.Output.Imports
import Playback.Proofs.Text.Sorted

/-!
# The lines of imports

The imports of snippets come in any order and as often as they are needed. The lines for them do not
show it.

* `Import.IsPlain`: an import whose module and name a reader of lines can tell from what surrounds
  them.
* `Import.ofLine_line`: a line of imports, read back.
* `Import.mem_sources`, `Import.mem_namesFrom`, `Import.statements_congr`: the lines hold what is
  imported, and depend on nothing else.
* `Snippet.Regrouped`: the same imports, spread over snippets in another way.
* `Snippet.importsOf_canonical`: modules and names are ascending, the lines read back are the
  imports and no more, and snippets have the same lines exactly if they need the same.
-/

namespace Playback

/-! ## Reading a line back -/

namespace Text

theorem trim_of_forall_not {p : CodePoint → Bool} {t : Text} (h : ∀ q ∈ t, ¬ p q) :
    trim p t = t := by
  have hnone {s : Text} (hs : ∀ q ∈ s, ¬ p q) : s.dropWhile p = s := by
    cases s with
    | nil => rfl
    | cons q s => exact List.dropWhile_cons_of_neg (hs q List.mem_cons_self)
  rw [trim, hnone h, hnone fun q hq => h q (List.mem_reverse.1 hq), List.reverse_reverse]

/-- The separator of names is a comma, and each name but the first stands behind a space. -/
theorem joined_comma_space (name : Text) (names : List Text) :
    joined ", " (name :: names) = joined "," (name :: names.map (.char ' ' :: ·)) := by
  rw [joined_cons, joined_cons, List.flatMap_map]
  rfl

end Text

namespace Import

/-- Neither the module nor the name holds a space or a comma. -/
def IsPlain (needed : Import) : Prop :=
  ∀ p ∈ needed.source ++ needed.name, p ≠ .char ' ' ∧ p ≠ .char ','

instance (needed : Import) : Decidable needed.IsPlain :=
  inferInstanceAs (Decidable (∀ p ∈ needed.source ++ needed.name, _))

section Line

variable {source : Text} {names : List Text}

theorem listed_joined (hne : names ≠ [])
    (h : ∀ name ∈ names, ∀ p ∈ name, p ≠ .char ' ' ∧ p ≠ .char ',') :
    listed (Text.joined ", " names) = names := by
  obtain ⟨first, rest, rfl⟩ := List.exists_cons_of_ne_nil hne
  obtain ⟨hfirst, hrest⟩ := List.forall_mem_cons.1 h
  have htrim {name : Text} (hname : ∀ p ∈ name, p ≠ .char ' ' ∧ p ≠ .char ',') :
      Text.trim (· == .char ' ') name = name :=
    Text.trim_of_forall_not fun p hp => by simpa using (hname p hp).1
  have hcomma : ∀ part ∈ first :: rest.map (.char ' ' :: ·), .char ',' ∉ part := by
    refine List.forall_mem_cons.2 ⟨fun hp => (hfirst _ hp).2 rfl, List.forall_mem_map.2 ?_⟩
    intro name hname hp
    rcases List.mem_cons.1 hp with heq | hp
    · exact absurd heq (by decide)
    · exact (hrest name hname _ hp).2 rfl
  have hsplit : (Text.joined "," (first :: rest.map (.char ' ' :: ·))).splitOn (.char ',') =
      first :: rest.map (.char ' ' :: ·) :=
    List.splitOn_intercalate _ hcomma (List.cons_ne_nil _ _)
  have hspace : ∀ name ∈ rest, Text.trim (· == .char ' ') (.char ' ' :: name) = name := by
    intro name hname
    rw [Text.trim, List.dropWhile_cons_of_pos (by decide)]
    exact htrim (hrest name hname)
  rw [listed, Text.joined_comma_space, hsplit, List.map_cons, List.map_map, htrim hfirst]
  exact congrArg _ ((List.map_congr_left hspace).trans (List.map_id _))

/-- A line of imports has them back. -/
theorem ofLine_line (hne : names ≠ []) (h : ∀ name ∈ names, IsPlain ⟨source, name⟩) :
    ofLine (Statement.fromImport source names).line = names.map fun name => ⟨source, name⟩ := by
  have hnames : ∀ name ∈ names, ∀ p ∈ name, p ≠ .char ' ' ∧ p ≠ .char ',' :=
    fun name hname p hp => h name hname p (List.mem_append_right _ hp)
  have hsource : ∀ p ∈ source, p ≠ .char ' ' := by
    obtain ⟨first, rest, rfl⟩ := List.exists_cons_of_ne_nil hne
    exact fun p hp => (h first List.mem_cons_self p (List.mem_append_left _ hp)).1
  have hline : (Statement.fromImport source names).line =
      "from " ++ (source ++ (" import " ++ Text.joined ", " names)) := by
    simp only [Statement.line, List.append_assoc]
  have hunindented (rest : Text) : Text.unindented ("from " ++ rest) = "from " ++ rest :=
    List.dropWhile_cons_of_neg (by decide)
  have htake (rest : Text) :
      (source ++ (" import " ++ rest)).takeWhile (· != .char ' ') = source := by
    rw [List.takeWhile_append_of_pos fun p hp => by simpa using hsource p hp]
    exact List.append_nil source
  rw [ofLine, hline, hunindented, Text.after?_append]
  show ofSource _ = _
  rw [ofSource, htake, List.drop_left, Text.after?_append]
  exact congrArg (List.map _) (listed_joined hne hnames)

end Line

/-! ## The imports in lines -/

section Statements

variable {imports others : List Import} {source name : Text}

theorem mem_namesFrom : name ∈ namesFrom imports source ↔ ⟨source, name⟩ ∈ imports := by
  rw [namesFrom, Text.mem_sortedSet, List.mem_map]
  constructor
  · rintro ⟨needed, hneeded, rfl⟩
    obtain ⟨hmem, hsource⟩ := List.mem_filter.1 hneeded
    rw [← of_decide_eq_true hsource]
    exact hmem
  · exact fun hmem => ⟨_, List.mem_filter.2 ⟨hmem, decide_eq_true rfl⟩, rfl⟩

/-- The modules that are imported from, in order. -/
def sources (imports : List Import) : List Text := Text.sortedSet (imports.map Import.source)

theorem mem_sources : source ∈ sources imports ↔ ∃ name, ⟨source, name⟩ ∈ imports := by
  rw [sources, Text.mem_sortedSet, List.mem_map]
  constructor
  · rintro ⟨needed, hmem, rfl⟩
    exact ⟨needed.name, hmem⟩
  · rintro ⟨name, hmem⟩
    exact ⟨_, hmem, rfl⟩

/-- The statements depend only on what is imported. -/
theorem statements_congr (h : ∀ needed, needed ∈ imports ↔ needed ∈ others) :
    statements imports = statements others := by
  have hsources : sources imports = sources others :=
    Text.eq_of_isAscending (Text.isAscending_sortedSet _) (Text.isAscending_sortedSet _) fun _ => by
      simp only [mem_sources, h]
  have hnames (source : Text) : namesFrom imports source = namesFrom others source :=
    Text.eq_of_isAscending (Text.isAscending_sortedSet _) (Text.isAscending_sortedSet _) fun _ => by
      simp only [mem_namesFrom, h]
  rw [statements, statements, ← sources, ← sources, hsources]
  exact List.map_congr_left fun source _ => by rw [hnames]

/-- The lines of imports, read back one by one. -/
theorem flatMap_ofLine (h : ∀ needed ∈ imports, IsPlain needed) :
    ((statements imports).map Statement.line).flatMap ofLine =
      (sources imports).flatMap fun source => (namesFrom imports source).map fun name =>
        ⟨source, name⟩ := by
  rw [statements, List.map_map, List.flatMap_map]
  refine List.flatMap_congr fun source hsource => ofLine_line ?_ ?_
  · obtain ⟨name, hmem⟩ := mem_sources.1 hsource
    exact List.ne_nil_of_mem (mem_namesFrom.2 hmem)
  · exact fun name hname => h _ (mem_namesFrom.1 hname)

/-- The imports are what is read back from their lines. -/
theorem mem_flatMap_ofLine (h : ∀ needed ∈ imports, IsPlain needed) {needed : Import} :
    needed ∈ ((statements imports).map Statement.line).flatMap ofLine ↔ needed ∈ imports := by
  rw [flatMap_ofLine h, List.mem_flatMap]
  constructor
  · rintro ⟨source, -, hmem⟩
    obtain ⟨name, hname, rfl⟩ := List.mem_map.1 hmem
    exact mem_namesFrom.1 hname
  · exact fun hmem => ⟨needed.source, mem_sources.2 ⟨needed.name, hmem⟩,
      List.mem_map.2 ⟨needed.name, mem_namesFrom.2 hmem, rfl⟩⟩

/-- None of them is read back twice. -/
theorem nodup_flatMap_ofLine (h : ∀ needed ∈ imports, IsPlain needed) :
    (((statements imports).map Statement.line).flatMap ofLine).Nodup := by
  rw [flatMap_ofLine h, List.nodup_flatMap]
  constructor
  · intro source _
    refine (Text.isAscending_sortedSet _).nodup.map fun name other heq => ?_
    exact congrArg Import.name heq
  · refine (Text.isAscending_sortedSet _).nodup.imp fun hne needed hmem hmem' => hne ?_
    obtain ⟨_, -, rfl⟩ := List.mem_map.1 hmem
    obtain ⟨_, -, heq⟩ := List.mem_map.1 hmem'
    exact (congrArg Import.source heq).symm

end Statements

end Import

/-! ## The imports of snippets -/

namespace Snippet

/-- What snippets and every program need, as often as it is needed. -/
def neededBy (snippets : List Snippet) : List Import := launchImport :: snippets.flatMap imports

/-- The same imports, spread over snippets in another way. -/
inductive Regrouped : List Snippet → List Snippet → Prop
  | permuted {snippets others : List Snippet} : snippets.Perm others → Regrouped snippets others
  | repeated {snippet : Snippet} {snippets : List Snippet} :
    snippet ∈ snippets → Regrouped snippets (snippet :: snippets)
  /-- The imports of one snippet are spread over several. -/
  | parted (front : List Snippet) {snippet : Snippet} {parts : List Snippet} (back : List Snippet) :
    (∀ needed, needed ∈ snippet.imports ↔ needed ∈ parts.flatMap imports) →
      Regrouped (front ++ snippet :: back) (front ++ parts ++ back)
  | symm {snippets others : List Snippet} : Regrouped snippets others → Regrouped others snippets
  | trans {snippets others more : List Snippet} :
    Regrouped snippets others → Regrouped others more → Regrouped snippets more

theorem Regrouped.mem_iff {snippets others : List Snippet} (h : Regrouped snippets others) :
    ∀ needed, needed ∈ neededBy snippets ↔ needed ∈ neededBy others := by
  unfold neededBy
  induction h with
  | permuted hperm =>
    exact fun needed => ((hperm.flatMap_right imports).cons launchImport).mem_iff
  | repeated hmem =>
    intro needed
    simp only [List.mem_cons, List.flatMap_cons, List.mem_append, List.mem_flatMap]
    grind
  | parted front back hparts =>
    intro needed
    simp only [List.mem_cons, List.flatMap_append, List.flatMap_cons, List.mem_append, hparts]
    grind
  | symm _ ih => exact fun needed => (ih needed).symm
  | trans _ _ ih ih' => exact fun needed => (ih needed).trans (ih' needed)

theorem isPlain_of_mem_neededBy {snippets : List Snippet}
    (h : ∀ snippet ∈ snippets, ∀ needed ∈ snippet.imports, needed.IsPlain) :
    ∀ needed ∈ neededBy snippets, needed.IsPlain := by
  refine List.forall_mem_cons.2 ⟨by decide, fun needed hmem => ?_⟩
  obtain ⟨snippet, hsnippet, hmem⟩ := List.mem_flatMap.1 hmem
  exact h snippet hsnippet needed hmem

/-- Snippets that need the same have the same lines. -/
theorem map_line_importsOf_congr {snippets others : List Snippet}
    (h : ∀ needed, needed ∈ neededBy others ↔ needed ∈ neededBy snippets) :
    (importsOf others).map Statement.line = (importsOf snippets).map Statement.line :=
  congrArg (List.map Statement.line) (Import.statements_congr h)

/-- There is one line for each module, with its names, both ascending. The lines read back are what
is needed, each import once. However the imports are spread over snippets the lines are the same,
and other lines need something else. -/
theorem importsOf_canonical {snippets : List Snippet}
    (h : ∀ snippet ∈ snippets, ∀ needed ∈ snippet.imports, needed.IsPlain) :
    (∃ (modules : List Text) (names : Text → List Text),
      (importsOf snippets).map Statement.line = modules.map (fun source =>
        "from " ++ source ++ " import " ++ Text.joined ", " (names source)) ∧
      Text.IsAscending modules ∧
      (∀ source, source ∈ modules ↔ ∃ name, ⟨source, name⟩ ∈ neededBy snippets) ∧
      ∀ source, Text.IsAscending (names source) ∧
        ∀ name, name ∈ names source ↔ ⟨source, name⟩ ∈ neededBy snippets) ∧
    (∀ needed, needed ∈ ((importsOf snippets).map Statement.line).flatMap Import.ofLine ↔
      needed ∈ neededBy snippets) ∧
    (((importsOf snippets).map Statement.line).flatMap Import.ofLine).Nodup ∧
    (∀ others, Regrouped snippets others → (importsOf others).map Statement.line =
      (importsOf snippets).map Statement.line) ∧
    ∀ others, (∀ snippet ∈ others, ∀ needed ∈ snippet.imports, needed.IsPlain) →
      ((importsOf others).map Statement.line = (importsOf snippets).map Statement.line ↔
        ∀ needed, needed ∈ neededBy others ↔ needed ∈ neededBy snippets) := by
  have hneeded := isPlain_of_mem_neededBy h
  refine ⟨⟨Import.sources (neededBy snippets), Import.namesFrom (neededBy snippets),
    List.map_map, Text.isAscending_sortedSet _, fun _ => Import.mem_sources,
    fun _ => ⟨Text.isAscending_sortedSet _, fun _ => Import.mem_namesFrom⟩⟩,
    fun _ => Import.mem_flatMap_ofLine hneeded, Import.nodup_flatMap_ofLine hneeded, ?_, ?_⟩
  · exact fun others hothers => map_line_importsOf_congr fun needed => (hothers.mem_iff needed).symm
  · refine fun others hothers => ⟨fun hlines needed => ?_, map_line_importsOf_congr⟩
    rw [← Import.mem_flatMap_ofLine hneeded,
      ← Import.mem_flatMap_ofLine (isPlain_of_mem_neededBy hothers)]
    exact iff_of_eq (congrArg (fun lines => needed ∈ lines.flatMap Import.ofLine) hlines)

/-- Two snippets need the same module, and one of them needs a name twice. -/
theorem importsOf_canonical_twoModules :
    let snippets : List Snippet :=
      [⟨[], [⟨"b", "y"⟩, ⟨"a", "z"⟩, ⟨"b", "y"⟩]⟩, ⟨[], []⟩, ⟨[], [⟨"b", "x"⟩]⟩]
    let lines := (importsOf snippets).map Statement.line
    (∀ snippet ∈ snippets, ∀ needed ∈ snippet.imports, needed.IsPlain) ∧
      lines = ["from a import z", "from b import x, y",
        "from playwright.sync_api import sync_playwright"] ∧
      (lines.flatMap Import.ofLine).Nodup ∧
      ∀ others, Regrouped snippets others → (importsOf others).map Statement.line = lines := by
  intro snippets lines
  have hplain : ∀ snippet ∈ snippets, ∀ needed ∈ snippet.imports, needed.IsPlain := by
    decide +kernel
  obtain ⟨-, -, hnodup, hregrouped, -⟩ := importsOf_canonical hplain
  exact ⟨hplain, by decide +kernel, hnodup, hregrouped⟩

end Snippet

end Playback
