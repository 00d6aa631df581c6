import Playback.Json.Decode
import Playback.Proofs.Json.Token

/-!
# Numbers that are too long

A text that cannot be decoded for the size of a number has a run of as many digits as the fault
says, and these are more than a whole number is read from.

* `Json.scanToken_suffix`: what is behind a token is an end of the text.
* `Json.digits_of_hugeNumber_mem`: the digits of a token for such a number.
* `Json.digits_of_decode`: the same of the fault of a text.
* `Json.decode_longMember`: an object with such a number has the fault.
-/

namespace Playback

theorem Quoted.scanItems_suffix {t rest : Text} {items : List Item}
    (h : scanItems t = .ok (items, rest)) : rest <:+ t := by
  fun_induction scanItems t generalizing items with
  | case1 | case3 | case5 | case6 | case8 | case9 => cases h
  | case2 r =>
    cases h
    exact List.suffix_cons _ _
  | case4 a b c d p r n hn ih =>
    obtain ⟨later, hr⟩ := rest_of_map_before h
    exact (ih hr).trans ⟨[_, _, a, b, c, d], rfl⟩
  | case7 p r hp hp' q hq ih =>
    obtain ⟨later, hr⟩ := rest_of_map_before h
    exact (ih hr).trans ⟨[_, p], rfl⟩
  | case10 p r _ _ _ _ _ hc ih =>
    obtain ⟨later, hr⟩ := rest_of_map_before h
    exact (ih hr).trans (List.suffix_cons p r)

theorem Quoted.scan_suffix {t content rest : Text} (h : scan t = .ok (content, rest)) :
    rest <:+ t := by
  unfold scan at h
  rcases hs : scanItems t with fault | ⟨items, rest'⟩
  · rw [hs] at h
    cases h
  · rw [hs] at h
    cases h
    exact scanItems_suffix hs

namespace Json

/-! ## What is behind a token -/

theorem scanFraction_suffix (t : Text) : (scanFraction t).2 <:+ t := by
  unfold scanFraction
  split
  · next rest =>
    split
    · exact List.suffix_rfl
    · exact (List.dropWhile_suffix _).trans (List.suffix_cons _ _)
  · exact List.suffix_rfl

theorem scanSign_suffix (t : Text) : (scanSign t).2 <:+ t := by
  unfold scanSign
  split
  · exact List.suffix_cons _ _
  · exact List.suffix_cons _ _
  · exact List.suffix_rfl

theorem scanExponent_suffix (t : Text) : (scanExponent t).2 <:+ t := by
  unfold scanExponent
  split
  · next e rest =>
    split
    · dsimp only
      split
      · exact List.suffix_rfl
      · have hdigits : (spanDigits (scanSign rest).2).2 <:+ (scanSign rest).2 :=
          List.dropWhile_suffix _
        exact (hdigits.trans (scanSign_suffix rest)).trans (List.suffix_cons _ _)
    · exact List.suffix_rfl
  · exact List.suffix_rfl

theorem scanWhole_append (t : Text) : (scanWhole t).1 ++ (scanWhole t).2 = t := by
  unfold scanWhole
  split
  · rfl
  · exact List.takeWhile_append_dropWhile

theorem scanMagnitude?_suffix {negative : Bool} {t rest : Text} {token : Token}
    (h : scanMagnitude? negative t = some (token, rest)) : rest <:+ t := by
  simp only [scanMagnitude?] at h
  split at h
  · cases h
  · cases h
    have hwhole : (scanWhole t).2 <:+ t := ⟨_, scanWhole_append t⟩
    exact ((scanExponent_suffix _).trans (scanFraction_suffix _)).trans hwhole

theorem scanNumber?_suffix {t rest : Text} {token : Token}
    (h : scanNumber? t = some (token, rest)) : rest <:+ t := by
  unfold scanNumber? at h
  split at h
  · exact (scanMagnitude?_suffix h).trans (List.suffix_cons _ _)
  · exact scanMagnitude?_suffix h

theorem scanWord?_suffix {t rest : Text} {token : Token} (h : scanWord? t = some (token, rest)) :
    rest <:+ t := by
  obtain ⟨⟨word, token'⟩, -, hw⟩ := List.exists_of_findSome?_eq_some h
  obtain ⟨rest', hrest, heq⟩ := Option.map_eq_some_iff.1 hw
  cases heq
  exact ⟨word, (Text.after?_eq_some hrest).symm⟩

theorem scanToken_suffix (p : CodePoint) (rest : Text) : (scanToken p rest).2 <:+ p :: rest := by
  unfold scanToken
  split
  · split
    · next hs => exact (Quoted.scan_suffix hs).trans (List.suffix_cons p rest)
    · exact List.nil_suffix
  · split
    · exact List.suffix_cons p rest
    · rcases hw : scanWord? (p :: rest) with _ | ⟨token, after⟩
      · rcases hn : scanNumber? (p :: rest) with _ | ⟨token, after⟩
        · exact List.suffix_cons p rest
        · exact scanNumber?_suffix hn
      · exact scanWord?_suffix hw

/-! ## The digits of a number -/

/-- The text has a run of so many digits, more than a whole number is read from. -/
def HasDigits (t : Text) (digits : Nat) : Prop :=
  Integer.maxDigits < digits ∧
    ∃ run, run <:+: t ∧ run.length = digits ∧ ∀ p ∈ run, p.isAsciiDigit

theorem HasDigits.mono {s t : Text} {digits : Nat} (h : HasDigits s digits) (hst : s <:+: t) :
    HasDigits t digits := by
  obtain ⟨hmax, run, hrun, hlength, hall⟩ := h
  exact ⟨hmax, run, hrun.trans hst, hlength, hall⟩

/-- A short text has no number of too many digits. -/
theorem HasDigits.lt_length {t : Text} {digits : Nat} (h : HasDigits t digits) :
    Integer.maxDigits < t.length := by
  obtain ⟨hmax, run, hrun, hlength, -⟩ := h
  have := hrun.length_le
  omega

private theorem length_of_numberToken {negative : Bool} {whole fraction : Text}
    {exponent? : Option Int} {digits : Nat}
    (h : numberToken negative whole fraction exponent? = .hugeNumber digits) :
    Integer.maxDigits < digits ∧ whole.length = digits := by
  unfold numberToken at h
  split at h
  · split at h
    · next hlong =>
      cases h
      exact ⟨hlong, rfl⟩
    · cases h
  · cases h

private theorem isAsciiDigit_scanWhole (t : Text) : ∀ p ∈ (scanWhole t).1, p.isAsciiDigit := by
  unfold scanWhole
  split
  · exact List.forall_mem_singleton.2 (by decide)
  · exact List.all_eq_true.1 List.all_takeWhile

theorem digits_of_scanNumber? {t rest : Text} {digits : Nat}
    (h : scanNumber? t = some (.hugeNumber digits, rest)) : HasDigits t digits := by
  have hmagnitude {negative : Bool} {t : Text}
      (h : scanMagnitude? negative t = some (.hugeNumber digits, rest)) : HasDigits t digits := by
    simp only [scanMagnitude?] at h
    split at h
    · cases h
    · obtain ⟨hmax, hlength⟩ := length_of_numberToken (Prod.mk.inj (Option.some.inj h)).1
      refine ⟨hmax, _, ?_, hlength, isAsciiDigit_scanWhole t⟩
      exact List.IsPrefix.isInfix ⟨_, scanWhole_append t⟩
  unfold scanNumber? at h
  split at h
  · exact (hmagnitude h).mono (List.suffix_cons _ _).isInfix
  · exact hmagnitude h

theorem digits_of_scanToken {p : CodePoint} {rest : Text} {digits : Nat}
    (h : (scanToken p rest).1 = .hugeNumber digits) : HasDigits (p :: rest) digits := by
  have hmark : ∀ q, mark? q ≠ some (.hugeNumber digits) := by
    intro q
    unfold mark?
    split <;> simp
  have hword : ∀ after, scanWord? (p :: rest) ≠ some (.hugeNumber digits, after) := by
    intro after hw
    obtain ⟨⟨word, token⟩, hmem, hw⟩ := List.exists_of_findSome?_eq_some hw
    obtain ⟨after', -, heq⟩ := Option.map_eq_some_iff.1 hw
    cases heq
    simp [words] at hmem
  unfold scanToken at h
  split at h
  · split at h <;> cases h
  · split at h
    · next token hm =>
      cases h
      exact absurd hm (hmark p)
    · rcases hw : scanWord? (p :: rest) with _ | ⟨token, after⟩
      · rcases hn : scanNumber? (p :: rest) with _ | ⟨token, after⟩
        · rw [hw, hn] at h
          cases h
        · rw [hw, hn] at h
          cases h
          exact digits_of_scanNumber? hn
      · rw [hw] at h
        cases h
        exact absurd hw (hword after)

theorem digits_of_hugeNumber_mem {t : Text} {digits : Nat} (h : .hugeNumber digits ∈ tokens t) :
    HasDigits t digits := by
  induction t using tokens.induct with
  | case1 =>
    rw [tokens] at h
    cases h
  | case2 p rest hp ih =>
    rw [tokens, if_pos hp] at h
    exact (ih h).mono (List.suffix_cons p rest).isInfix
  | case3 p rest hp ih =>
    rw [tokens, if_neg hp] at h
    rcases List.mem_cons.1 h with h | h
    · exact digits_of_scanToken h.symm
    · exact (ih h).mono (scanToken_suffix p rest).isInfix

/-! ## The fault of a text -/

private theorem step_eq_hugeNumber {place : Place} {token : Token} {digits : Nat}
    (h : place.step token = .error (.hugeNumber digits)) : token = .hugeNumber digits := by
  cases place <;> cases token <;> first | cases h; rfl | cases h

theorem hugeNumber_mem_of_run {place : Place} {tokens : List Token} {digits : Nat}
    (h : place.run tokens = .error (.hugeNumber digits)) : .hugeNumber digits ∈ tokens := by
  induction tokens generalizing place with
  | nil =>
    have hfinish : place.finish = .error (.hugeNumber digits) := h
    cases place <;> cases hfinish
  | cons token tokens ih =>
    cases hs : place.step token with
    | error fault =>
      have hrun : place.run (token :: tokens) = .error fault := by
        rw [Place.run, List.foldlM_cons, hs]
        rfl
      rw [hrun] at h
      cases h
      rw [step_eq_hugeNumber hs]
      exact List.mem_cons_self
    | ok next =>
      have hrun : place.run (token :: tokens) = next.run tokens := by
        rw [Place.run, List.foldlM_cons, hs]
        rfl
      rw [hrun] at h
      exact List.mem_cons_of_mem _ (ih h)

theorem digits_of_decode {t : Text} {digits : Nat} (h : decode t = .error (.hugeNumber digits)) :
    HasDigits t digits := by
  unfold decode at h
  split at h
  · cases h
  · exact digits_of_hugeNumber_mem (hugeNumber_mem_of_run h)

/-! ## A text with such a fault -/

/-- An object with one member, a number of one and further digits. -/
def longMember (digits : Text) : Text :=
  .char '\x7b' :: .char '"' :: .char 'a' :: .char '"' :: .char ':' :: .char '1' ::
    (digits ++ [.char '\x7d'])

private theorem scanToken_long {digits : Text} (hdigits : ∀ p ∈ digits, p.isAsciiDigit)
    (h : Integer.maxDigits ≤ digits.length) :
    scanToken (.char '1') (digits ++ [.char '\x7d']) =
      (.hugeNumber (digits.length + 1), [.char '\x7d']) := by
  have hwhole : scanWhole (.char '1' :: (digits ++ [.char '\x7d'])) =
      (.char '1' :: digits, [.char '\x7d']) := by
    have hall : ∀ p ∈ (.char '1' :: digits : Text), p.isAsciiDigit :=
      List.forall_mem_cons.2 ⟨by decide, hdigits⟩
    refine spanDigits_append hall fun p hp => ?_
    cases hp
    decide
  have hlong : (.char '1' :: digits : Text).length > Integer.maxDigits := Nat.lt_succ_of_le h
  have htoken : numberToken false (.char '1' :: digits) [] none =
      .hugeNumber (digits.length + 1) := by
    rw [numberToken, if_pos (by rfl), if_pos hlong, List.length_cons]
  have hnumber : scanNumber? (.char '1' :: (digits ++ [.char '\x7d'])) =
      some (.hugeNumber (digits.length + 1), [.char '\x7d']) := by
    show scanMagnitude? false (.char '1' :: (digits ++ [.char '\x7d'])) = _
    rw [scanMagnitude?, hwhole, ← htoken]
    rfl
  have hword : scanWord? (.char '1' :: (digits ++ [.char '\x7d'])) = none := rfl
  show ((scanWord? (.char '1' :: (digits ++ [.char '\x7d']))).or
    (scanNumber? (.char '1' :: (digits ++ [.char '\x7d'])))).getD
      (.stray, digits ++ [.char '\x7d']) = _
  rw [hword, hnumber]
  rfl

/-- A number of more digits than a whole number is read from keeps an object from being decoded. -/
theorem decode_longMember {digits : Text} (hdigits : ∀ p ∈ digits, p.isAsciiDigit)
    (h : Integer.maxDigits ≤ digits.length) :
    decode (longMember digits) = .error (.hugeNumber (digits.length + 1)) := by
  have hopen (rest : Text) : scanToken (.char '\x7b') rest = (.openObject, rest) := rfl
  have hkey (rest : Text) :
      scanToken (.char '"') (.char 'a' :: .char '"' :: rest) = (.text "a", rest) := rfl
  have hcolon (rest : Text) : scanToken (.char ':') rest = (.colon, rest) := rfl
  show Place.run (.value []) (tokens (longMember digits)) = _
  rw [longMember, tokens_cons rfl (hopen _), tokens_cons rfl (hkey _), tokens_cons rfl (hcolon _),
    tokens_cons rfl (scanToken_long hdigits h)]
  rfl

end Json

end Playback
