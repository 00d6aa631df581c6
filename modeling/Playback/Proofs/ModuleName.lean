import Playback.ModuleName
import Playback.Proofs.Text.Identifier

/-!
# The names of modules

* `Text.IsModuleName`: what the names of modules are like.
* `moduleName_eq_self_iff`: these are the names that are kept as they are.
  `isModuleName_moduleName`: every other name becomes one of them, so that making it twice makes no
  difference, and `length_moduleName`: by at most one more code point.
* `hasIdentifierForm_moduleName_iff`: the name of a module is made like an identifier, which is what
  an import needs, exactly if none of its letters and numbers is one that identifiers do not have.
-/

namespace Playback

/-- The code point that stands for `p` in the name of a module. -/
def CodePoint.inModule (p : CodePoint) : CodePoint := if p.isWord then p else .char '_'

namespace CodePoint

variable {p : CodePoint}

theorem isWord_lowLine : (char '_').isWord := by decide +kernel

theorem startsIdentifier_lowLine : (char '_').startsIdentifier := by decide +kernel

theorem isWord_inModule (p : CodePoint) : p.inModule.isWord := by
  unfold inModule
  split
  · assumption
  · exact isWord_lowLine

theorem inModule_eq_self_iff : p.inModule = p ↔ p.isWord := by
  unfold inModule
  split
  · simpa
  · next h =>
    refine ⟨fun heq => ?_, fun hp => absurd hp h⟩
    rw [← heq]
    exact isWord_lowLine

/-- A code point is kept out of identifiers only if it is stray. -/
theorem continuesIdentifier_inModule_iff : p.inModule.continuesIdentifier ↔ ¬ p.isStray := by
  rw [isStray_iff]
  unfold inModule
  split
  · next h => simp [h]
  · next h => simp [h, continuesIdentifier, startsIdentifier_lowLine]

/-- One that is no digit is kept from the beginning of identifiers only if it is stray or
attached. -/
theorem startsIdentifier_inModule_iff (h : p.inModule.isDigit = false) :
    p.inModule.startsIdentifier ↔ ¬ p.isStray ∧ ¬ p.isAttached := by
  rw [isAttached_iff, isStray_iff]
  unfold inModule at h ⊢
  split
  · next hp =>
    rw [if_pos hp] at h
    simp only [hp, h, continuesIdentifier]
    grind
  · next hp => simp [hp, startsIdentifier_lowLine]

end CodePoint

/-- A name of a module: letters, numbers and low lines, with no digit in front. -/
structure Text.IsModuleName (t : Text) : Prop where
  ne_nil : t ≠ []
  isWord : ∀ p ∈ t, p.isWord
  isDigit_head : ∀ p ∈ t.head?, p.isDigit = false

theorem moduleName_cons (first : CodePoint) (rest : Text) : moduleName (first :: rest) =
    if first.inModule.isDigit then .char '_' :: (first :: rest).map CodePoint.inModule
    else (first :: rest).map CodePoint.inModule := rfl

theorem isModuleName_moduleName (name : Text) : (moduleName name).IsModuleName := by
  have hword := CodePoint.isWord_lowLine
  have hdigit : (CodePoint.char '_').isDigit = false := by decide +kernel
  cases name with
  | nil => exact ⟨by decide, by simpa [moduleName] using hword, by simpa [moduleName] using hdigit⟩
  | cons first rest =>
    have hwords : ∀ p ∈ (first :: rest).map CodePoint.inModule, p.isWord := by
      simp [CodePoint.isWord_inModule]
    rw [moduleName_cons]
    split
    · exact ⟨by simp, List.forall_mem_cons.2 ⟨hword, hwords⟩, by simpa using hdigit⟩
    · next h => exact ⟨by simp, hwords, by simpa using h⟩

/-- The names of modules are kept as they are. -/
theorem moduleName_eq_self_iff {t : Text} : moduleName t = t ↔ t.IsModuleName := by
  refine ⟨fun h => h ▸ isModuleName_moduleName t, fun h => ?_⟩
  obtain ⟨first, rest, rfl⟩ := List.exists_cons_of_ne_nil h.ne_nil
  have hkept : (first :: rest).map CodePoint.inModule = first :: rest := by
    have hsame : ∀ p ∈ first :: rest, p.inModule = id p := fun p hp =>
      CodePoint.inModule_eq_self_iff.2 (h.isWord p hp)
    rw [List.map_congr_left hsame, List.map_id]
  have hfirst : first.inModule.isDigit = false := by
    rw [CodePoint.inModule_eq_self_iff.2 (h.isWord first List.mem_cons_self)]
    exact h.isDigit_head first rfl
  rw [moduleName_cons, hfirst, hkept, if_neg Bool.false_ne_true]

theorem moduleName_moduleName (name : Text) : moduleName (moduleName name) = moduleName name :=
  moduleName_eq_self_iff.2 (isModuleName_moduleName name)

/-- At most one code point is put in front. -/
theorem length_moduleName (name : Text) :
    name.length ≤ (moduleName name).length ∧ (moduleName name).length ≤ name.length + 1 := by
  cases name with
  | nil => decide
  | cons first rest =>
    rw [moduleName_cons]
    split <;> simp

/-- The name of a module is made like an identifier exactly if the name that it is made of has no
stray letter or number and does not begin with an attached one. -/
theorem hasIdentifierForm_moduleName_iff (name : Text) : (moduleName name).HasIdentifierForm ↔
    (∀ p ∈ name, ¬ p.isStray) ∧ ∀ p ∈ name.head?, ¬ p.isAttached := by
  have hline := CodePoint.startsIdentifier_lowLine
  cases name with
  | nil => simpa [moduleName, Text.HasIdentifierForm] using hline
  | cons first rest =>
    have hrest (names : Text) : (∀ p ∈ names.map CodePoint.inModule, p.continuesIdentifier) ↔
        ∀ p ∈ names, ¬ p.isStray := by
      simp only [List.forall_mem_map, CodePoint.continuesIdentifier_inModule_iff]
    rw [moduleName_cons]
    by_cases hdigit : first.inModule.isDigit
    · -- a digit is not attached, so the second condition says nothing here
      have hattached : ¬ first.isAttached := by
        rw [CodePoint.isAttached_iff]
        rintro ⟨hword, -, hother, -⟩
        rw [CodePoint.inModule_eq_self_iff.2 hword] at hdigit
        exact hother hdigit
      rw [if_pos hdigit, Text.HasIdentifierForm, hrest]
      simp [hline, hattached]
    · have hfirst := CodePoint.startsIdentifier_inModule_iff (Bool.eq_false_iff.2 hdigit)
      rw [if_neg hdigit, List.map_cons, Text.HasIdentifierForm, hrest, hfirst]
      simp only [List.forall_mem_cons, List.head?_cons, Option.mem_some_iff, forall_eq']
      exact and_right_comm

/-- A superscript stays in the name of a module, and no identifier has one. -/
theorem not_hasIdentifierForm_superscript : ¬ (moduleName "a²").HasIdentifierForm := by
  decide +kernel

end Playback
