import Playback.Defaults
import Playback.Proofs.ModuleName

/-!
# Where a program is saved

A program that is saved without a name for its file lies right in the output directory, whatever the
recording is called and wherever the directory is.

* `FilePath.IsFileIn`: a path is that of a directory and of one more step.
  `FilePath.isFileIn_of_plain`: it is if the step is a plain name.
* `Text.IsProgramName`: the names of the files of programs.
* `programFile_isFileIn`: the file of a program, and what becomes of a recording's name in it.
-/

namespace Playback

namespace FilePath

/-- The path is that of the directory and of a name in it. -/
structure IsFileIn (path directory : FilePath) (name : Text) : Prop where
  /-- The name is a path of one step. -/
  parse_name : parse name = ⟨[], [name]⟩
  /-- The path is that of the directory, and the name behind it. -/
  eq_join : path = directory.join (parse name)
  /-- The same is true of the two places: the name does not lead out of the directory. -/
  resolved_eq : ∀ base : FilePath, base.resolved path =
    ⟨(base.resolved directory).root, (base.resolved directory).steps ++ [name]⟩

/-- A text without slashes is one step. -/
theorem split_of_notMem {name : Text} (h : .char '/' ∉ name) : split name = [name] := by
  induction name with
  | nil => rfl
  | cons p name ih =>
    rw [List.mem_cons, not_or] at h
    rw [split, ih h.2]
    rintro rfl
    exact h.1 rfl

theorem parse_of_notMem {name : Text} (h : .char '/' ∉ name) (hnil : name ≠ [])
    (hhere : name ≠ here) : parse name = ⟨[], [name]⟩ := by
  have hroot : rootOf name = [] := by
    unfold rootOf
    split <;> simp_all
  simp [parse, hroot, split_of_notMem h, hnil, hhere]

/-- A step that does not lead to a parent stays behind the others. -/
theorem withoutUp_concat {step : Text} (h : step ≠ up) (behind steps : List Text) :
    withoutUp behind (steps ++ [step]) = withoutUp behind steps ++ [step] := by
  induction steps generalizing behind with
  | nil => simp [withoutUp, h]
  | cons next steps ih =>
    rw [List.cons_append, withoutUp, withoutUp]
    split
    · exact ih _
    · exact ih _

/-- A name that is none of the places themselves and has no slashes is that of a file in the
directory. -/
theorem isFileIn_of_plain {name : Text} (h : .char '/' ∉ name) (hnil : name ≠ [])
    (hhere : name ≠ here) (hup : name ≠ up) (directory : FilePath) :
    IsFileIn ⟨directory.root, directory.steps ++ [name]⟩ directory name where
  parse_name := parse_of_notMem h hnil hhere
  eq_join := by simp [parse_of_notMem h hnil hhere, join, isAbsolute]
  resolved_eq base := by
    by_cases habsolute : directory.isAbsolute
    · have hfile : isAbsolute ⟨directory.root, directory.steps ++ [name]⟩ := habsolute
      simp [resolved, join, habsolute, hfile, withoutUp_concat hup]
    · have hfile : ¬ isAbsolute ⟨directory.root, directory.steps ++ [name]⟩ := habsolute
      simp only [resolved, join, habsolute, hfile, if_false, Bool.false_eq_true]
      rw [← List.append_assoc, withoutUp_concat hup]
      rfl

end FilePath

/-- The name of a program's file: `.py` behind letters, numbers and low lines, which are the name of
a module, and for the format of tests `test_` in front of one. -/
structure Text.IsProgramName (name formatName front stem : Text) : Prop where
  eq_append : name = front ++ ".py"
  isWord : ∀ p ∈ front, p.isWord
  front_eq : front = if formatName = ("test" : Text) then "test_" ++ stem else stem
  stem : stem.IsModuleName

theorem Text.IsProgramName.isFileIn {formatName name front stem : Text}
    (h : name.IsProgramName formatName front stem) (directory : FilePath) :
    FilePath.IsFileIn ⟨directory.root, directory.steps ++ [name]⟩ directory name := by
  have hslash : .char '/' ∉ name := by
    have hword : (CodePoint.char '/').isWord = false := by decide +kernel
    have hend : .char '/' ∉ (".py" : Text) := by decide
    rw [h.eq_append, List.mem_append, not_or]
    exact ⟨fun hmem => Bool.false_ne_true (hword.symm.trans (h.isWord _ hmem)), hend⟩
  have hlong : 3 ≤ name.length := by
    rw [h.eq_append, List.length_append]
    exact Nat.le_add_left _ _
  have hother {other : Text} (hshort : other.length < 3) : name ≠ other := by
    rintro rfl
    omega
  exact FilePath.isFileIn_of_plain hslash (hother (by decide)) (hother (by decide))
    (hother (by decide)) directory

/-- The name that a program's file has, for the name of a module. -/
theorem Text.isProgramName_of_isModuleName {stem : Text} (h : stem.IsModuleName)
    (formatName : Text) : ∃ front : Text,
      front = (if formatName = OutputFormat.test.name then ("test_" : Text) else []) ++ stem ∧
        Text.IsProgramName (front ++ ".py") formatName front stem := by
  have hlead : ∀ p ∈ ("test_" : Text), p.isWord := by decide +kernel
  refine ⟨_, rfl, rfl, ?_, ?_, h⟩
  · split
    · exact List.forall_mem_append.2 ⟨hlead, h.isWord⟩
    · exact h.isWord
  · show _ = if formatName = OutputFormat.test.name then _ else _
    split <;> rfl

/-- A program is saved right in the directory, in a file by the name of a program, which is made of
the recording's name. There this name is kept if it is the name of a module already, and else it
becomes one that is kept from then on and has at most one more code point. -/
theorem programFile_isFileIn (directory : FilePath) (recording? : Option FilePath)
    (formatName name : Text) :
    (∃ file front, (programFile directory recording? formatName).IsFileIn directory file ∧
      file.IsProgramName formatName front
        (moduleName ((recording?.map FilePath.stem).getD "recording"))) ∧
    moduleName (moduleName name) = moduleName name ∧
    (moduleName name = name ↔ name.IsModuleName) ∧
    (moduleName name).length ≤ name.length + 1 := by
  have hstem := isModuleName_moduleName ((recording?.map FilePath.stem).getD "recording")
  obtain ⟨front, hfront, hfile⟩ := Text.isProgramName_of_isModuleName hstem formatName
  have hpath : programFile directory recording? formatName =
      ⟨directory.root, directory.steps ++ [front ++ ".py"]⟩ := by
    rw [hfront]
    rfl
  refine ⟨⟨_, front, ?_, hfile⟩, moduleName_moduleName name, moduleName_eq_self_iff,
    (length_moduleName name).2⟩
  rw [hpath]
  exact hfile.isFileIn directory

end Playback
