import Mathlib.Data.List.Infix
import Playback.Cli.FileTree
import Playback.Proofs.Except

/-!
# Writing in a tree of files

* `FileTree.isDirectory_iff`: what the directories of a tree are. Those above a directory are
  directories too, `FileTree.isDirectory_of_prefix`.
* `FileTree.Grows`: everything that paths lead to in one tree, they lead to in another one as well.
* `FileTree.Walk.makeDirectories_leads`: the directories along a path are there once they were made,
  and no file was changed for it.
* `FileTree.write_leads`: a file that was written holds its bytes, and the path leads to it. Every
  other file is as it was.
-/

namespace Playback

namespace FileTree

variable {tree tree' : FileTree} {s t : List Text}

theorem isDirectory_iff : tree.isDirectory s ↔ s = [] ∨ (∃ d ∈ tree.directories, s <+: d) ∨
    ∃ file ∈ tree.files, s <+: file.1 ∧ s.length < file.1.length := by
  simp [isDirectory, or_assoc]

/-- What is above a directory is a directory. -/
theorem isDirectory_of_prefix (ht : tree.isDirectory t) (h : s <+: t) : tree.isDirectory s := by
  rw [isDirectory_iff] at ht ⊢
  rcases ht with rfl | ⟨d, hd, ht⟩ | ⟨file, hfile, ht, hlength⟩
  · exact .inl (List.prefix_nil.1 h)
  · exact .inr (.inl ⟨d, hd, h.trans ht⟩)
  · exact .inr (.inr ⟨file, hfile, h.trans ht, h.length_le.trans_lt hlength⟩)

theorem isDirectory_of_eq_directory (h : tree.entry? s = some .directory) : tree.isDirectory s := by
  unfold entry? at h
  split at h
  · cases h
  · split at h
    · assumption
    · cases h

theorem isSome_entry?_iff :
    (tree.entry? s).isSome ↔ (tree.bytes? s).isSome ∨ tree.isDirectory s := by
  unfold entry?
  split
  · simp [*]
  · split <;> simp [*]

/-! ## Trees that grow -/

/-- Directories stay directories, and what there is stays there. -/
structure Grows (tree tree' : FileTree) : Prop where
  isDirectory : ∀ {s}, tree.isDirectory s → tree'.isDirectory s
  entry? : ∀ {s}, (tree.entry? s).isSome → (tree'.entry? s).isSome

theorem Grows.refl (tree : FileTree) : tree.Grows tree := ⟨id, id⟩

theorem Grows.trans {other : FileTree} (h : tree.Grows tree') (h' : tree'.Grows other) :
    tree.Grows other :=
  ⟨h'.isDirectory ∘ h.isDirectory, h'.entry? ∘ h.entry?⟩

/-- A path leads to the same place in a tree that has grown. -/
theorem Grows.walk? (h : tree.Grows tree') {place found : List Text} {steps : List Text}
    (hwalk : tree.walk? place steps = some found) : tree'.walk? place steps = some found := by
  induction steps generalizing place with
  | nil => exact hwalk
  | cons step steps ih =>
    unfold FileTree.walk? at hwalk ⊢
    split at hwalk
    · next hplace =>
      rw [if_pos (h.isDirectory hplace)]
      split at hwalk
      · next hup =>
        rw [if_pos hup]
        exact ih hwalk
      · next hup =>
        split at hwalk
        · next hentry =>
          rw [if_neg hup, if_pos (h.entry? hentry)]
          exact ih hwalk
        · cases hwalk
    · cases hwalk

/-- A walk goes on where the one before it ends. -/
theorem walk?_append (place : List Text) (steps later : List Text) :
    tree.walk? place (steps ++ later) = (tree.walk? place steps).bind (tree.walk? · later) := by
  induction steps generalizing place with
  | nil => rfl
  | cons step steps ih =>
    rw [List.cons_append, walk?, walk?]
    split
    · split
      · exact ih _
      · split
        · exact ih _
        · rfl
    · rfl

/-- A step down leads to what is there. -/
theorem walk?_down {place : List Text} {step : Text} (hplace : tree.isDirectory place)
    (hup : step ≠ FilePath.up) (hentry : (tree.entry? (place ++ [step])).isSome)
    (steps : List Text) :
    tree.walk? place (step :: steps) = tree.walk? (place ++ [step]) steps := by
  rw [walk?, if_pos hplace, if_neg hup, if_pos hentry]

/-! ## Directories along a path -/

namespace Walk

variable {walk walk' : Walk}

theorem grows_make (walk : Walk) (step : Text) : walk.tree.Grows (walk.make step).tree := by
  have hdirectory {s : List Text} (h : walk.tree.isDirectory s) :
      (walk.make step).tree.isDirectory s := by
    rw [isDirectory_iff] at h ⊢
    rcases h with h | ⟨d, hd, h⟩ | h
    · exact .inl h
    · exact .inr (.inl ⟨d, List.mem_cons_of_mem _ hd, h⟩)
    · exact .inr (.inr h)
  refine ⟨hdirectory, fun h => ?_⟩
  rw [isSome_entry?_iff] at h ⊢
  exact h.imp id hdirectory

theorem isDirectory_make (walk : Walk) (step : Text) :
    (walk.make step).tree.isDirectory (walk.place ++ [step]) :=
  isDirectory_iff.2 (.inr (.inl ⟨_, List.mem_cons_self, List.prefix_refl _⟩))

/-- Where a walk from one tree to another has come: no file is changed, and the steps lead there
from a directory to a directory. -/
structure Leads (walk walk' : Walk) (steps : List Text) : Prop where
  files_eq : walk'.tree.files = walk.tree.files
  grows : walk.tree.Grows walk'.tree
  isDirectory : walk'.tree.isDirectory walk'.place
  walk?_eq : walk'.tree.walk? walk.place steps = some walk'.place

/-- The directories along a path are there once they were made. -/
theorem makeDirectories_leads {whole : FilePath} {steps : List Text}
    (hplace : walk.tree.isDirectory walk.place)
    (h : walk.makeDirectories whole steps = .ok walk') : walk.Leads walk' steps := by
  induction steps generalizing walk with
  | nil =>
    cases h
    exact ⟨rfl, .refl _, hplace, rfl⟩
  | cons step steps ih =>
    -- a step into a directory, which may have been made for it
    have hinto (next : Walk) (hfiles : next.tree.files = walk.tree.files)
        (hnext : next.place = walk.place ++ [step]) (hgrows : walk.tree.Grows next.tree)
        (hdirectory : next.tree.isDirectory (walk.place ++ [step])) (hup : step ≠ FilePath.up)
        (hmade : next.makeDirectories whole steps = .ok walk') :
        walk.Leads walk' (step :: steps) := by
      have hleads := ih (hnext ▸ hdirectory) hmade
      refine ⟨hleads.files_eq.trans hfiles, hgrows.trans hleads.grows, hleads.isDirectory, ?_⟩
      have hthere := hleads.grows.isDirectory hdirectory
      rw [walk?_down (hleads.grows.isDirectory (hgrows.isDirectory hplace)) hup
        (isSome_entry?_iff.2 (.inr hthere)), ← hnext]
      exact hleads.walk?_eq
    unfold makeDirectories at h
    split at h
    · next hup =>
      have hparent := isDirectory_of_prefix hplace (List.dropLast_prefix walk.place)
      have hleads : walk.goUp.Leads walk' steps := ih hparent h
      refine ⟨hleads.files_eq, hleads.grows, hleads.isDirectory, ?_⟩
      rw [walk?, if_pos (hleads.grows.isDirectory hplace), if_pos hup]
      exact hleads.walk?_eq
    · next hup =>
      split at h
      · cases h
      · split at h
        · next hentry =>
          exact hinto (walk.enter step) rfl rfl (.refl _) (isDirectory_of_eq_directory hentry) hup h
        · split at h <;> cases h
        · exact hinto (walk.make step) rfl rfl (walk.grows_make step) (walk.isDirectory_make step)
            hup h

end Walk

/-! ## A file -/

/-- What a tree finds after a file was put into it. -/
theorem bytes?_put (tree : FileTree) (target : List Text) (bytes : List UInt8)
    (other : List Text) :
    bytes? { tree with files := (target, bytes) :: tree.files.filter (·.1 != target) } other =
      if other = target then some bytes else tree.bytes? other := by
  unfold bytes?
  by_cases h : other = target
  · rw [if_pos h, h, List.lookup_cons_self]
  · have hother : List.lookup other (tree.files.filter (·.1 != target)) =
        List.lookup other tree.files := by
      induction tree.files with
      | nil => rfl
      | cons file files ih =>
        obtain ⟨place, content⟩ := file
        by_cases hplace : place = target
        · have hne : (other == place) = false := by simpa [hplace] using h
          rw [List.filter_cons_of_neg (by simp [hplace]), List.lookup_cons, hne, ih]
        · rw [List.filter_cons_of_pos (by simpa using hplace), List.lookup_cons, List.lookup_cons,
            ih]
    rw [if_neg h, List.lookup_cons, beq_false_of_ne h, hother]

theorem grows_put (tree : FileTree) (target : List Text) (bytes : List UInt8) :
    tree.Grows { tree with files := (target, bytes) :: tree.files.filter (·.1 != target) } := by
  have hdirectory {s : List Text} (h : tree.isDirectory s) : FileTree.isDirectory
      { tree with files := (target, bytes) :: tree.files.filter (·.1 != target) } s := by
    rw [isDirectory_iff] at h ⊢
    rcases h with h | h | ⟨file, hfile, hprefix⟩
    · exact .inl h
    · exact .inr (.inl h)
    · refine .inr (.inr ?_)
      by_cases heq : file.1 = target
      · exact ⟨_, List.mem_cons_self, heq ▸ hprefix⟩
      · exact ⟨file, List.mem_cons_of_mem _ (List.mem_filter.2 ⟨hfile, by simpa using heq⟩),
          hprefix⟩
  refine ⟨hdirectory, fun {s} h => ?_⟩
  rw [isSome_entry?_iff, bytes?_put] at *
  by_cases hs : s = target
  · exact .inl (by rw [if_pos hs]; rfl)
  · rw [if_neg hs]
    exact h.imp id hdirectory

/-- A file that is put into a tree takes the last step of its path. -/
theorem put_eq_ok {place : List Text} {path : FilePath} {bytes : List UInt8}
    (h : tree.put place path bytes = .ok tree') :
    path.isTooLong = false ∧ path.fileName ≠ FilePath.up ∧
      path.steps = path.parent.steps ++ [path.fileName] ∧
      tree' = { tree with
        files := (place ++ [path.fileName], bytes) ::
          tree.files.filter (·.1 != place ++ [path.fileName]) } := by
  unfold put at h
  dsimp only at h
  split at h
  · cases h
  · next hlong =>
    split at h
    · cases h
    · next hname =>
      split at h
      · cases h
      · cases h
        simp only [Bool.or_eq_true, decide_eq_true_eq, not_or] at hname
        have hsteps : path.steps ≠ [] := by
          intro hnil
          simp [FilePath.fileName, hnil] at hname
        refine ⟨by simpa using hlong, hname.1.2, ?_, rfl⟩
        rw [FilePath.parent, FilePath.fileName, List.getLastD_eq_getLast?,
          List.getLast?_eq_some_getLast hsteps, Option.getD_some, List.dropLast_concat_getLast]

/-- A file that was written holds its bytes, the path leads to it, and every other file is as it
was. -/
theorem write_leads {base path : FilePath} {bytes : List UInt8}
    (hbase : tree.isDirectory base.steps) (h : tree.write base path bytes = .ok tree') :
    ∃ place, tree'.find? base path = some place ∧ tree'.bytes? place = some bytes ∧
      ∀ other, other ≠ place → tree'.bytes? other = tree.bytes? other := by
  obtain ⟨⟨middle, place⟩, hmade, hput⟩ := bind_eq_ok_iff.1 h
  have hstart : tree.isDirectory (startOf base path.parent) := by
    unfold startOf
    split
    · exact isDirectory_iff.2 (.inl rfl)
    · exact hbase
  unfold makeDirectories at hmade
  split at hmade
  · cases hmade
  obtain ⟨walk, hwalk, hend⟩ := bind_eq_ok_iff.1 hmade
  cases hend
  have hleads : Walk.Leads { tree, place := startOf base path.parent } walk path.parent.steps :=
    Walk.makeDirectories_leads hstart hwalk
  obtain ⟨hlong, hup, hsteps, rfl⟩ := put_eq_ok hput
  have hgrows := walk.tree.grows_put (walk.place ++ [path.fileName]) bytes
  have hbytes := walk.tree.bytes?_put (walk.place ++ [path.fileName]) bytes
  refine ⟨walk.place ++ [path.fileName], ?_, ?_, fun other hother => ?_⟩
  · have hparent := hgrows.walk? hleads.walk?_eq
    rw [find?, hlong, hsteps, walk?_append]
    show (FileTree.walk? _ (startOf base path.parent) path.parent.steps).bind _ = _
    rw [hparent, Option.bind_some]
    refine walk?_down (hgrows.isDirectory hleads.isDirectory) hup (isSome_entry?_iff.2 (.inl ?_)) []
    rw [hbytes, if_pos rfl]
    rfl
  · rw [hbytes, if_pos rfl]
  · rw [hbytes, if_neg hother, bytes?, hleads.files_eq]
    rfl

end FileTree

end Playback
