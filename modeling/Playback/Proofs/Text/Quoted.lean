import Playback.Proofs.Code.Literal

/-!
# Literals that are read back

* `Quoted.scan_escaped`: behind an opening quote an escaped text and a closing quote are read as the
  text, whatever follows. `Quoted.decode?_encode`: the literal of a text is read as the text.
  `Quoted.encode_append_inj`: a literal shows where it ends.
* `Quoted.scan_unclosed`: without a closing quote an escaped text cannot be read.
-/

namespace Playback

namespace Quoted

/-- The item in front of others stands for `p`, whatever the others are. -/
def Item.StandsFor (item : Item) (p : CodePoint) : Prop :=
  ∀ items, Item.join (item :: items) = p :: Item.join items

theorem Item.plain_standsFor (p : CodePoint) : (plain p).StandsFor p := fun _ => rfl

/-- The number of a control character makes no pair with the number behind it. -/
theorem Item.unit_standsFor {p : CodePoint} (h : p.toNat < 0x20) : (unit p.toNat).StandsFor p := by
  have hhalf : isHighHalf p.toNat = false := by
    simp only [isHighHalf, Bool.and_eq_false_iff, decide_eq_false_iff_not]
    omega
  intro items
  cases items with
  | nil => simp [Item.join, CodePoint.ofNat_toNat]
  | cons next items => cases next <;> simp [Item.join, CodePoint.ofNat_toNat, hhalf]

/-- A character that stands for itself. -/
theorem scanItems_plain {p : CodePoint} (hq : p ≠ .char '"') (hb : p ≠ .char '\\')
    (hc : ¬ p.toNat < 0x20) (rest : Text) :
    scanItems (p :: rest) = (scanItems rest).map (Item.plain p).before := by
  rw [scanItems, if_neg hc]
  all_goals grind

/-- A mark behind a backslash. -/
theorem scanItems_mark {c : Char} {p : CodePoint} (h : unescape? (.char c) = some p) (rest : Text) :
    scanItems (.char '\\' :: .char c :: rest) = (scanItems rest).map (Item.plain p).before := by
  have hu : c ≠ 'u' := by
    rintro rfl
    cases h
  rw [scanItems, h]
  · intro _ _ _ _ _ _ hc
    cases hc
    exact absurd rfl hu
  · intro hc
    cases hc
    exact absurd rfl hu

/-- The escape of a control character, if something is behind it. -/
theorem scanItems_control {n : Nat} (h : n < 0x20) {rest : Text} (hrest : rest ≠ []) :
    scanItems ("\\u00" ++ [hexDigit (n / 16), hexDigit (n % 16)] ++ rest) =
      (scanItems rest).map (Item.unit n).before := by
  obtain ⟨p, rest, rfl⟩ := List.exists_cons_of_ne_nil hrest
  have h0 : hexValue? (.char '0') = some 0 := by decide
  have hd : hexValue? (hexDigit (n / 16)) = some (n / 16) :=
    Literal.hexValue?_hexDigit (by omega)
  have hm : hexValue? (hexDigit (n % 16)) = some (n % 16) := Literal.hexValue?_hexDigit (by omega)
  have hnumber : hexNumber? (.char '0') (.char '0') (hexDigit (n / 16)) (hexDigit (n % 16)) =
      some n := by
    simp only [hexNumber?, h0, hd, hm, Option.pure_def, Option.bind_eq_bind, Option.bind_some,
      Option.some.injEq]
    omega
  show scanItems (.char '\\' :: .char 'u' :: .char '0' :: .char '0' :: hexDigit (n / 16) ::
    hexDigit (n % 16) :: p :: rest) = _
  rw [scanItems, hnumber]

/-- An escaped code point is read as one item that stands for it, if something is behind it. -/
theorem scanItems_escape (p : CodePoint) {rest : Text} (hrest : rest ≠ []) :
    ∃ item : Item, item.StandsFor p ∧
      scanItems (escape p ++ rest) = (scanItems rest).map item.before := by
  unfold escape
  split
  iterate 7
    · exact ⟨_, Item.plain_standsFor _, scanItems_mark rfl rest⟩
  · next hq hb _ _ _ _ _ =>
    split
    · next hc => exact ⟨_, Item.unit_standsFor hc, scanItems_control hc hrest⟩
    · next hc => exact ⟨_, Item.plain_standsFor p, scanItems_plain hq hb hc rest⟩

/-- An escaped text is read up to the closing quote, whatever follows it. -/
theorem scan_escaped (t rest : Text) :
    scan (t.flatMap escape ++ .char '"' :: rest) = .ok (t, rest) := by
  have hitems : ∃ items, scanItems (t.flatMap escape ++ .char '"' :: rest) = .ok (items, rest) ∧
      Item.join items = t := by
    induction t with
    | nil => exact ⟨[], by rw [List.flatMap_nil, List.nil_append, scanItems], rfl⟩
    | cons p t ih =>
      obtain ⟨items, hitems, hjoin⟩ := ih
      have hrest : t.flatMap escape ++ .char '"' :: rest ≠ [] := by simp
      obtain ⟨item, hitem, hread⟩ := scanItems_escape p hrest
      refine ⟨item :: items, ?_, by rw [hitem, hjoin]⟩
      rw [List.flatMap_cons, List.append_assoc, hread, hitems]
      rfl
  obtain ⟨items, hitems, hjoin⟩ := hitems
  rw [scan, hitems, ← hjoin]
  rfl

/-- The literal of a text is read as the text. -/
theorem decode?_encode (t : Text) : decode? (encode t) = some t := by
  rw [encode, decode?, scan_escaped]

/-- A literal shows where it ends. -/
theorem encode_append_inj {s t rest rest' : Text} (h : encode s ++ rest = encode t ++ rest') :
    s = t ∧ rest = rest' := by
  simp only [encode, List.cons_append, List.append_assoc, List.nil_append, List.cons.injEq,
    true_and] at h
  have hread := congrArg scan h
  rw [scan_escaped, scan_escaped] at hread
  exact Prod.mk.inj (Except.ok.inj hread)

theorem encode_injective : Function.Injective encode := by
  intro s t h
  exact (encode_append_inj (congrArg (· ++ []) h)).1

/-- An escaped code point with nothing behind it cannot be read. -/
theorem scanItems_escape_nil (p : CodePoint) : ∃ fault, scanItems (escape p) = .error fault := by
  have hnil {q : CodePoint} {t : Text}
      (h : scanItems t = (scanItems []).map (Item.plain q).before) :
      scanItems t = .error .unterminated := h
  unfold escape
  split
  iterate 7
    · exact ⟨_, hnil (scanItems_mark rfl [])⟩
  · next hq hb _ _ _ _ _ =>
    split
    · exact ⟨.unicodeEscape, rfl⟩
    · next hc => exact ⟨_, hnil (scanItems_plain hq hb hc [])⟩

/-- An escaped text that no closing quote follows cannot be read. -/
theorem scan_unclosed (t : Text) : ∃ fault, scan (t.flatMap escape) = .error fault := by
  have hitems : ∃ fault, scanItems (t.flatMap escape) = .error fault := by
    induction t with
    | nil => exact ⟨_, by rw [List.flatMap_nil, scanItems]⟩
    | cons p t ih =>
      rw [List.flatMap_cons]
      by_cases hrest : t.flatMap escape = []
      · rw [hrest, List.append_nil]
        exact scanItems_escape_nil p
      · obtain ⟨item, -, hread⟩ := scanItems_escape p hrest
        obtain ⟨fault, hfault⟩ := ih
        exact ⟨fault, by rw [hread, hfault]; rfl⟩
  obtain ⟨fault, hfault⟩ := hitems
  exact ⟨fault, by rw [scan, hfault]; rfl⟩

end Quoted

end Playback
