import Playback.Proofs.Locator.Steps

/-!
# Calls with keywords

A call whose arguments all have keywords shows its method, the keywords and their values.

* `Text.IsOption`: a value that shows where it ends, with brackets around it or without them.
* `Expression.printed`: the arguments of a call as texts.
* `Expression.print_invokeWith_eq_iff`: two calls on the same target are written alike exactly if
  they have the same method and the same arguments.
-/

namespace Playback

/-! ## The values of arguments -/

namespace Text

/-- The marks around the items of a list and around the entries of an object. -/
def brackets : List (CodePoint × CodePoint) :=
  [(.char '[', .char ']'), (.char '{', .char '}')]

/-- The value of an argument: one without brackets around it, or one with them and none inside that
closes it. -/
inductive IsOption : Text → Prop
  | value {t : Text} (h : t.IsValue) : IsOption t
  | enclosed {lead last : CodePoint} (hb : (lead, last) ∈ brackets) {content : Text}
    (hc : last ∉ content) : IsOption (lead :: (content ++ [last]))

/-- A value without brackets does not begin like one with them. -/
theorem IsValue.append_ne_enclosed {s rest tail : Text} (hs : s.IsValue) (hr : rest.EndsArgument)
    {lead last : CodePoint} (hb : (lead, last) ∈ brackets) : s ++ rest ≠ lead :: tail := by
  have hleads : ∀ bracket ∈ brackets, bracket.1 ≠ .char '"' ∧ bracket.1.isNumeric = false ∧
      bracket.1 ≠ .char ',' ∧ bracket.1 ≠ .char ')' := by decide
  obtain ⟨hquote, hnumeric, hcomma, hbracket⟩ := hleads _ hb
  intro h
  cases hs with
  | literal content => exact hquote (List.cons.inj h).1.symm
  | numeric hs =>
    cases s with
    | nil =>
      obtain ⟨p, hp, hmark⟩ := hr
      rw [show rest = lead :: tail from h] at hp
      cases hp
      exact hmark.elim hcomma hbracket
    | cons q s =>
      have hq := hs q List.mem_cons_self
      rw [(List.cons.inj h).1, hnumeric] at hq
      cases hq

/-- Values with and without brackets show where they end. -/
theorem showEnds_isOption : ShowEnds IsOption := by
  intro s t rest rest' hs ht hr hr' h
  cases hs with
  | value hs =>
    cases ht with
    | value ht => exact hs.append_inj ht hr hr' h
    | enclosed hb _ => exact absurd h (hs.append_ne_enclosed hr hb)
  | enclosed hb hc =>
    cases ht with
    | value ht => exact absurd h.symm (ht.append_ne_enclosed hr' hb)
    | enclosed hb' hc' =>
      have hlast : ∀ bracket ∈ brackets, ∀ bracket' ∈ brackets, bracket.1 = bracket'.1 →
          bracket = bracket' := by decide
      simp only [List.append_assoc, List.cons_append, List.nil_append, List.cons.injEq] at h
      cases hlast _ hb _ hb' h.1
      obtain ⟨rfl, hrest⟩ := append_inj_of_notMem hc hc' h.2
      exact ⟨rfl, hrest⟩

end Text

/-! ## Calls with keywords -/

theorem not_mem_optionalArgument {keyword other : Text} (h : keyword ≠ other)
    (value : Option Text) : keyword ∉ (optionalArgument other value).map Prod.fst := by
  cases value <;> simp [optionalArgument, h]

namespace Expression

/-- The arguments of a call as texts. -/
def printed (keywords : List (Text × Expression)) : List (Text × Text) :=
  keywords.map fun (keyword, value) => (keyword, value.print)

theorem print_invokeWith (target : Expression) (method : Text)
    (keywords : List (Text × Expression)) :
    (target.invokeWith method keywords).print = target.print ++ .char '.' ::
      (method ++ .char '(' :: (Text.joined ", " (printKeywords keywords) ++ [.char ')'])) := by
  simp [invokeWith, Expression.print, printItems, Text.ofString]

/-- Arguments that are joined are arguments behind another one, without the comma in front. -/
theorem keywordsBehind_printed {keywords : List (Text × Expression)} (h : keywords ≠ []) :
    keywordsBehind (printed keywords) = ", " ++ Text.joined ", " (printKeywords keywords) := by
  obtain ⟨⟨keyword, value⟩, rest, rfl⟩ := List.exists_cons_of_ne_nil h
  rw [printKeywords, Text.joined_cons, printed, ← flatMap_printKeywords]
  simp [printKeywords]

theorem joined_printKeywords_ne_nil {keywords : List (Text × Expression)} (h : keywords ≠ []) :
    Text.joined ", " (printKeywords keywords) ≠ [] := by
  obtain ⟨⟨keyword, value⟩, rest, rfl⟩ := List.exists_cons_of_ne_nil h
  rw [printKeywords, Text.joined_cons]
  simp [Text.ofString]

theorem printKeywords_eq (keywords : List (Text × Expression)) :
    printKeywords keywords =
      (printed keywords).map fun (keyword, value) => keyword ++ "=" ++ value := by
  induction keywords with
  | nil => rfl
  | cons argument keywords ih =>
    rw [printKeywords, ih]
    rfl

/-- A call shows its method and its arguments. -/
theorem print_invokeWith_eq_iff {target : Expression} {method method' : Text}
    {keywords keywords' : List (Text × Expression)} (hm : method.IsName) (hm' : method'.IsName)
    (hk : ∀ argument ∈ printed keywords, argument.1.IsName ∧ argument.2.IsOption)
    (hk' : ∀ argument ∈ printed keywords', argument.1.IsName ∧ argument.2.IsOption) :
    (target.invokeWith method keywords).print = (target.invokeWith method' keywords').print ↔
      method = method' ∧ printed keywords = printed keywords' := by
  have hbracket (t : Text) : Text.EndsName (.char '(' :: t) := Text.endsName_cons (by decide) t
  rw [print_invokeWith, print_invokeWith, List.append_cancel_left_eq]
  constructor
  · intro h
    obtain ⟨hmethod, h⟩ := hm.append_inj hm' (hbracket _) (hbracket _) (List.cons.inj h).2
    have hjoined := List.append_cancel_right (List.cons.inj h).2
    refine ⟨hmethod, ?_⟩
    by_cases hnil : keywords = []
    · by_cases hnil' : keywords' = []
      · rw [hnil, hnil']
      · rw [hnil] at hjoined
        exact absurd hjoined.symm (joined_printKeywords_ne_nil hnil')
    · by_cases hnil' : keywords' = []
      · rw [hnil'] at hjoined
        exact absurd hjoined (joined_printKeywords_ne_nil hnil)
      · have hbehind : keywordsBehind (printed keywords) ++ [.char ')'] =
            keywordsBehind (printed keywords') ++ [.char ')'] := by
          rw [keywordsBehind_printed hnil, keywordsBehind_printed hnil', hjoined]
        exact (Text.showEnds_isOption.keywordsBehind_append_inj hk hk' hbehind).1
  · rintro ⟨rfl, hsame⟩
    rw [printKeywords_eq, printKeywords_eq, hsame]

end Expression

end Playback
