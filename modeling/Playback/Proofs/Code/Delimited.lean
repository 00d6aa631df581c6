import Playback.Event.Page
import Playback.Proofs.Code.Number
import Playback.Proofs.Json.Token
import Playback.Proofs.Text.Quoted

/-!
# Texts that show where they end

Code is one flat text. It is read in only one way if each of its parts shows where it ends: a name
by the character behind it, a literal by its closing quote, an argument by the comma or the bracket
behind it.

* `append_inj_of_class`: what is true of all parts of one class of characters.
  `append_inj_of_notMem`: the same for parts with a mark behind them.
* `Text.IsName`, `Text.EndsName`: the names of code, and what may stand behind one.
  `Text.IsName.append_inj`: a name shows where it ends.
* `Text.EndsNumeric`: what may stand behind a number or a word. `Text.IsNumeric.append_inj`: these
  show where they end.
* `Text.IsValue`, `Text.EndsArgument`: the same for the values of arguments.
  `keywordsBehind_append_inj`: the same for all arguments with keywords, and
  `Text.ShowEnds.keywordsBehind_append_inj` for values of other classes.
* `Text.ofInt_inj`: a whole number is read in only one way.
-/

namespace Playback

/-- A part of one class of characters shows where it ends, if what is behind it does not go on with
the class. -/
theorem append_inj_of_class {α : Type} {p : α → Bool} {s s' rest rest' : List α}
    (hs : ∀ a ∈ s, p a = true) (hs' : ∀ a ∈ s', p a = true)
    (hrest : ∀ a ∈ rest.head?, p a = false) (hrest' : ∀ a ∈ rest'.head?, p a = false)
    (h : s ++ rest = s' ++ rest') : s = s' ∧ rest = rest' := by
  have hfront {s rest : List α} (hs : ∀ a ∈ s, p a = true) (hrest : ∀ a ∈ rest.head?, p a = false) :
      (s ++ rest).takeWhile p = s := by
    rw [List.takeWhile_append_of_pos hs]
    cases rest with
    | nil => simp
    | cons a rest => simp [hrest a rfl]
  have hsame : s = s' := by rw [← hfront hs hrest, h, hfront hs' hrest']
  subst hsame
  exact ⟨rfl, List.append_cancel_left h⟩

/-- A part shows where it ends, if the mark behind it is not in it. -/
theorem append_inj_of_notMem {α : Type} [DecidableEq α] {mark : α} {s s' rest rest' : List α}
    (hs : mark ∉ s) (hs' : mark ∉ s') (h : s ++ mark :: rest = s' ++ mark :: rest') :
    s = s' ∧ rest = rest' := by
  have hinside {s : List α} (hs : mark ∉ s) : ∀ a ∈ s, (a != mark) = true :=
    fun a ha => bne_iff_ne.2 (ne_of_mem_of_not_mem ha hs)
  have hends (rest : List α) : ∀ a ∈ (mark :: rest).head?, (a != mark) = false := by simp
  obtain ⟨hsame, hrest⟩ := append_inj_of_class (hinside hs) (hinside hs') (hends _) (hends _) h
  exact ⟨hsame, (List.cons.inj hrest).2⟩

/-! ## Names -/

/-- Can the code point stand in a name? -/
def CodePoint.isNamePart (p : CodePoint) : Bool :=
  p.isAsciiLetter || p.isAsciiDigit || p == .char '_'

namespace Text

/-- The text is a name, or the beginning of one. -/
def IsName (t : Text) : Prop := ∀ p ∈ t, p.isNamePart

instance (t : Text) : Decidable (IsName t) := inferInstanceAs (Decidable (∀ p ∈ t, p.isNamePart))

theorem IsName.isPlain {t : Text} (h : t.IsName) : IsPlain t := by
  intro p hp
  rcases Bool.or_eq_true_iff.1 (h p hp) with hword | hline
  · simp only [CodePoint.isPlain, hword, Bool.true_or]
  · rw [beq_iff_eq.1 hline]
    decide

/-- A name in front of the text ends there. -/
def EndsName (rest : Text) : Prop := ∀ p ∈ rest.head?, p.isNamePart = false

theorem endsName_nil : EndsName [] := by simp [EndsName]

theorem endsName_cons {p : CodePoint} (h : p.isNamePart = false) (rest : Text) :
    EndsName (p :: rest) := by
  simp [EndsName, h]

theorem IsName.append_inj {name name' rest rest' : Text} (hn : name.IsName) (hn' : name'.IsName)
    (hr : rest.EndsName) (hr' : rest'.EndsName) (h : name ++ rest = name' ++ rest') :
    name = name' ∧ rest = rest' :=
  append_inj_of_class hn hn' hr hr' h

end Text

theorem isName_pageName (pageAlias : Text) : (pageName pageAlias).IsName := by
  unfold pageName
  split
  · decide
  · refine List.forall_mem_append.2 ⟨by decide, fun p hp => ?_⟩
    obtain ⟨q, -, rfl⟩ := List.mem_map.1 hp
    by_cases hq : (q.isAsciiLetter || q.isAsciiDigit) = true
    · simp [CodePoint.inName, CodePoint.isNamePart, hq]
    · simp [CodePoint.inName, CodePoint.isNamePart, hq]

/-! ## Arguments -/

namespace Text

/-- The value of an argument: a literal, or a number or a word. -/
inductive IsValue : Text → Prop
  | literal (content : Text) : IsValue (Quoted.encode content)
  | numeric {t : Text} (h : t.IsNumeric) : IsValue t

/-- An argument in front of the text ends there. -/
def EndsArgument (rest : Text) : Prop := ∃ p ∈ rest.head?, p = .char ',' ∨ p = .char ')'

/-- The values of the class show where they end. -/
def ShowEnds (V : Text → Prop) : Prop :=
  ∀ {s t rest rest' : Text}, V s → V t → rest.EndsArgument → rest'.EndsArgument →
    s ++ rest = t ++ rest' → s = t ∧ rest = rest'

/-- A number or a word in front of the text ends there. -/
def EndsNumeric (rest : Text) : Prop := ∀ p ∈ rest.head?, p.isNumeric = false

theorem endsNumeric_nil : EndsNumeric [] := by simp [EndsNumeric]

theorem endsNumeric_cons {p : CodePoint} (h : p.isNumeric = false) (rest : Text) :
    EndsNumeric (p :: rest) := by
  simp [EndsNumeric, h]

theorem IsNumeric.append_inj {s t rest rest' : Text} (hs : s.IsNumeric) (ht : t.IsNumeric)
    (hr : rest.EndsNumeric) (hr' : rest'.EndsNumeric) (h : s ++ rest = t ++ rest') :
    s = t ∧ rest = rest' :=
  append_inj_of_class hs ht hr hr' h

theorem EndsArgument.endsNumeric {rest : Text} (h : rest.EndsArgument) : rest.EndsNumeric := by
  obtain ⟨p, hp, hmark⟩ := h
  intro q hq
  cases Option.mem_unique hp hq
  rcases hmark with rfl | rfl <;> decide

/-- A literal is no number or word: it begins with a quote. -/
theorem EndsArgument.encode_ne {t rest rest' content : Text} (hr : rest.EndsArgument)
    (ht : t.IsNumeric) : t ++ rest ≠ Quoted.encode content ++ rest' := by
  obtain ⟨p, hp, hmark⟩ := hr
  obtain ⟨rest, rfl⟩ := List.head?_eq_some_iff.1 hp
  intro h
  cases t with
  | nil =>
    rw [(List.cons.inj h).1] at hmark
    simp at hmark
  | cons q t =>
    have hquote := ht q List.mem_cons_self
    rw [(List.cons.inj h).1] at hquote
    exact absurd hquote (by decide)

theorem IsValue.append_inj {s t rest rest' : Text} (hs : s.IsValue) (ht : t.IsValue)
    (hr : rest.EndsArgument) (hr' : rest'.EndsArgument) (h : s ++ rest = t ++ rest') :
    s = t ∧ rest = rest' := by
  cases hs with
  | literal content =>
    cases ht with
    | literal content' =>
      obtain ⟨rfl, hrest⟩ := Quoted.encode_append_inj h
      exact ⟨rfl, hrest⟩
    | numeric ht => exact absurd h.symm (hr'.encode_ne ht)
  | numeric hs =>
    cases ht with
    | literal content' => exact absurd h (hr.encode_ne hs)
    | numeric ht => exact hs.append_inj ht hr.endsNumeric hr'.endsNumeric h

theorem showEnds_isValue : ShowEnds IsValue := IsValue.append_inj

end Text

/-- Arguments with keywords behind another argument. -/
def keywordsBehind (keywords : List (Text × Text)) : Text :=
  keywords.flatMap fun (keyword, value) => ", " ++ keyword ++ "=" ++ value

/-- An argument with a keyword that may be missing. -/
def optionalArgument (keyword : Text) (value : Option Text) : List (Text × Text) :=
  value.toList.map fun v => (keyword, v)

/-- The keywords are names, and the values are values. -/
def AreKeywords (keywords : List (Text × Text)) : Prop :=
  ∀ argument ∈ keywords, argument.1.IsName ∧ argument.2.IsValue

theorem keywordsBehind_cons (keyword value : Text) (keywords : List (Text × Text)) (rest : Text) :
    keywordsBehind ((keyword, value) :: keywords) ++ rest =
      .char ',' :: .char ' ' ::
        (keyword ++ .char '=' :: (value ++ (keywordsBehind keywords ++ rest))) := by
  simp [keywordsBehind, Text.ofString]

theorem endsArgument_keywordsBehind (keywords : List (Text × Text)) (rest : Text) :
    Text.EndsArgument (keywordsBehind keywords ++ .char ')' :: rest) := by
  cases keywords with
  | nil => exact ⟨_, rfl, .inr rfl⟩
  | cons argument keywords =>
    rw [keywordsBehind_cons]
    exact ⟨_, rfl, .inl rfl⟩

/-- Where a value of the class shows its end, arguments up to a closing bracket are read in only one
way. -/
theorem Text.ShowEnds.keywordsBehind_append_inj {V : Text → Prop} (hV : ShowEnds V)
    {keywords keywords' : List (Text × Text)} {rest rest' : Text}
    (hk : ∀ argument ∈ keywords, argument.1.IsName ∧ V argument.2)
    (hk' : ∀ argument ∈ keywords', argument.1.IsName ∧ V argument.2)
    (h : keywordsBehind keywords ++ .char ')' :: rest =
      keywordsBehind keywords' ++ .char ')' :: rest') : keywords = keywords' ∧ rest = rest' := by
  induction keywords generalizing keywords' with
  | nil =>
    cases keywords' with
    | nil => exact ⟨rfl, (List.cons.inj h).2⟩
    | cons argument keywords' =>
      rw [keywordsBehind_cons] at h
      simp [keywordsBehind] at h
  | cons argument keywords ih =>
    obtain ⟨⟨hname, hvalue⟩, hrest⟩ := List.forall_mem_cons.1 hk
    cases keywords' with
    | nil =>
      rw [keywordsBehind_cons] at h
      simp [keywordsBehind] at h
    | cons argument' keywords' =>
      obtain ⟨⟨hname', hvalue'⟩, hrest'⟩ := List.forall_mem_cons.1 hk'
      rw [keywordsBehind_cons, keywordsBehind_cons, List.cons.injEq, List.cons.injEq] at h
      have hequals (t : Text) : Text.EndsName (.char '=' :: t) := Text.endsName_cons (by decide) t
      obtain ⟨hkeyword, h⟩ := hname.append_inj hname' (hequals _) (hequals _) h.2.2
      obtain ⟨hsame, h⟩ := hV hvalue hvalue' (endsArgument_keywordsBehind _ _)
        (endsArgument_keywordsBehind _ _) (List.cons.inj h).2
      obtain ⟨rfl, hbehind⟩ := ih hrest hrest' h
      exact ⟨by rw [Prod.ext hkeyword hsame], hbehind⟩

/-- Arguments up to a closing bracket are read in only one way. -/
theorem keywordsBehind_append_inj {keywords keywords' : List (Text × Text)} {rest rest' : Text}
    (hk : AreKeywords keywords) (hk' : AreKeywords keywords')
    (h : keywordsBehind keywords ++ .char ')' :: rest =
      keywordsBehind keywords' ++ .char ')' :: rest') : keywords = keywords' ∧ rest = rest' :=
  Text.showEnds_isValue.keywordsBehind_append_inj hk hk' h

/-- An argument that may be missing shows whether it is there, if no argument behind it has its
keyword. -/
theorem optionalArgument_append_inj {keyword : Text} {value value' : Option Text}
    {behind behind' : List (Text × Text)} (hb : keyword ∉ behind.map Prod.fst)
    (hb' : keyword ∉ behind'.map Prod.fst)
    (h : optionalArgument keyword value ++ behind = optionalArgument keyword value' ++ behind') :
    value = value' ∧ behind = behind' := by
  cases value with
  | none =>
    cases value' with
    | none => exact ⟨rfl, h⟩
    | some v =>
      have hsome : behind = (keyword, v) :: behind' := h
      exact absurd (by simp [hsome]) hb
  | some v =>
    cases value' with
    | none =>
      have hsome : behind' = (keyword, v) :: behind := h.symm
      exact absurd (by simp [hsome]) hb'
    | some v' =>
      obtain ⟨hv, hbehind⟩ := List.cons.inj h
      exact ⟨congrArg some (Prod.mk.inj hv).2, hbehind⟩

/-! ## Whole numbers -/

theorem Text.ofNat_inj {m n : Nat} (h : ofNat m = ofNat n) : m = n := by
  rw [← Json.digitsValue_ofNat m, h, Json.digitsValue_ofNat]

theorem Text.ofInt_inj {i j : Int} (h : ofInt i = ofInt j) : i = j := by
  have hminus (n : Nat) (t : Text) : ofNat n ≠ .char '-' :: t := by
    intro hn
    have hdigit := Json.isAsciiDigit_of_mem_ofNat n (.char '-') (by simp [hn])
    exact absurd hdigit (by decide)
  cases i with
  | ofNat m =>
    cases j with
    | ofNat n => rw [ofNat_inj h]
    | negSucc n => exact absurd h (hminus _ _)
  | negSucc m =>
    cases j with
    | ofNat n => exact absurd h.symm (hminus _ _)
    | negSucc n =>
      have := ofNat_inj (List.cons.inj h).2
      omega

end Playback
