import Mathlib.Algebra.Group.Nat.Defs
import Mathlib.Data.List.TakeWhile
import Playback.Text.Utf8

/-!
# Bytes that are read back

* `Utf8.tailBytes`: the continuation bytes of a number. `Utf8.decodeFrom_tailBytes`: behind the lead
  byte of the number they are read as its code point.
* `Utf8.exists_lead?_one`, `Utf8.exists_lead?_two`, `Utf8.exists_lead?_three`: the lead bytes.
* `Utf8.decodeFrom_utf8EncodeChar`: the bytes of a character are read as the character.
* `Utf8.encode_eq_ok_iff`: which texts have bytes. `Utf8.decode_of_encode`: the bytes are read as
  the text.
* `Text.map_toList_toString`: the string of a text shows all of it.
-/

namespace Playback

namespace Utf8

/-- The last `count` bytes of a number, six bits in each. -/
def tailBytes : (count n : Nat) → List UInt8
  | 0, _ => []
  | count + 1, n => UInt8.ofNat (n / 64 ^ count % 64 + 0x80) :: tailBytes count n

/-- The lead byte of `n` is read, and `count` bytes are missing. The first of them may be one of
few. -/
structure Partial.Expects (p : Partial) (count n : Nat) : Prop where
  missing : p.missing = count + 1
  bits : p.bits = n / 64 ^ (count + 1)
  low : p.low ≤ n / 64 ^ count % 64 + 0x80
  high : n / 64 ^ count % 64 + 0x80 ≤ p.high

theorem toNat_tail (n : Nat) : (UInt8.ofNat (n % 64 + 0x80)).toNat = n % 64 + 0x80 :=
  UInt8.toNat_ofNat_of_lt' (by show _ < 256; omega)

/-- The bits read so far and those of the next byte. -/
theorem Partial.Expects.bits_add {p : Partial} {count n : Nat} (h : p.Expects count n) :
    p.bits * 64 + (n / 64 ^ count % 64 + 0x80 - 0x80) = n / 64 ^ count := by
  rw [h.bits, Nat.pow_succ, ← Nat.div_div_eq_div_mul]
  omega

/-- Behind its lead byte a number is read as its code point. -/
theorem decodeFrom_tailBytes {p : Partial} {count n : Nat} (h : p.Expects count n)
    (position : Nat) (rest : List UInt8) :
    ∃ next, decodeFrom position (some p) (tailBytes (count + 1) n ++ rest) =
      (decodeFrom next none rest).map (.char (Char.ofNat n) :: ·) := by
  induction count generalizing p position with
  | zero =>
    have hlast : p.missing ≤ 1 := Nat.le_of_eq h.missing
    refine ⟨position + 1, ?_⟩
    rw [tailBytes, tailBytes, List.singleton_append, decodeFrom, toNat_tail,
      if_pos ⟨h.low, h.high⟩, if_pos hlast, h.bits_add, Nat.pow_zero, Nat.div_one]
    cases decodeFrom (position + 1) none rest <;> rfl
  | succ count ih =>
    have hmore : ¬ p.missing ≤ 1 := by
      rw [h.missing]
      omega
    let q : Partial :=
      { p with missing := p.missing - 1, low := 0x80, high := 0xBF, bits := n / 64 ^ (count + 1) }
    have hmissing : p.missing - 1 = count + 1 := by
      rw [h.missing]
      rfl
    have hhigh : n / 64 ^ count % 64 + 0x80 ≤ 0xBF := by omega
    have hq : q.Expects count n := ⟨hmissing, rfl, Nat.le_add_left .., hhigh⟩
    obtain ⟨next, hnext⟩ := ih hq (position + 1)
    refine ⟨next, ?_⟩
    rw [tailBytes, List.cons_append, decodeFrom, toNat_tail, if_pos ⟨h.low, h.high⟩,
      if_neg hmore, h.bits_add]
    exact hnext

theorem Partial.Expects.of_bounds {b : UInt8} {start low high bits count n : Nat}
    (hbits : bits = n / 64 ^ (count + 1)) (hlow : low ≤ n / 64 ^ count % 64 + 0x80)
    (hhigh : n / 64 ^ count % 64 + 0x80 ≤ high) :
    Expects ⟨b, start, count + 1, low, high, bits⟩ count n :=
  ⟨rfl, hbits, hlow, hhigh⟩

/-- The lead byte of one continuation byte. -/
theorem exists_lead?_one {n : Nat} (hlow : 0x80 ≤ n) (hhigh : n ≤ 0x7FF) (position : Nat) :
    ∃ p, lead? (UInt8.ofNat (n / 64 % 32 + 0xC0)) position = some p ∧ p.Expects 0 n := by
  have hbyte : (UInt8.ofNat (n / 64 % 32 + 0xC0)).toNat = n / 64 % 32 + 0xC0 :=
    UInt8.toNat_ofNat_of_lt' (by show _ < 256; omega)
  rw [lead?, hbyte, if_pos (by omega)]
  exact ⟨_, rfl, .of_bounds (by omega) (by omega) (by omega)⟩

/-- The lead byte of two continuation bytes. The first and the last but two leave out numbers that
have fewer bytes and surrogates. -/
theorem exists_lead?_two {n : Nat} (hlow : 0x800 ≤ n) (hhigh : n ≤ 0xFFFF)
    (hvalid : n < 0xD800 ∨ 0xDFFF < n) (position : Nat) :
    ∃ p, lead? (UInt8.ofNat (n / 4096 % 16 + 0xE0)) position = some p ∧ p.Expects 1 n := by
  have hbyte : (UInt8.ofNat (n / 4096 % 16 + 0xE0)).toNat = n / 4096 % 16 + 0xE0 :=
    UInt8.toNat_ofNat_of_lt' (by show _ < 256; omega)
  rw [lead?, hbyte, if_neg (by omega)]
  by_cases hfirst : n / 4096 = 0
  · rw [if_pos (by omega)]
    exact ⟨_, rfl, .of_bounds (by omega) (by omega) (by omega)⟩
  · rw [if_neg (by omega)]
    by_cases hsurrogates : n / 4096 = 13
    · rw [if_pos (by omega)]
      exact ⟨_, rfl, .of_bounds (by omega) (by omega) (by omega)⟩
    · rw [if_neg (by omega), if_pos (by omega)]
      exact ⟨_, rfl, .of_bounds (by omega) (by omega) (by omega)⟩

/-- The lead byte of three continuation bytes. The first and the last leave out numbers that have
fewer bytes and those beyond U+10FFFF. -/
theorem exists_lead?_three {n : Nat} (hlow : 0x10000 ≤ n) (hhigh : n < 0x110000)
    (position : Nat) :
    ∃ p, lead? (UInt8.ofNat (n / 262144 % 8 + 0xF0)) position = some p ∧ p.Expects 2 n := by
  have hbyte : (UInt8.ofNat (n / 262144 % 8 + 0xF0)).toNat = n / 262144 % 8 + 0xF0 :=
    UInt8.toNat_ofNat_of_lt' (by show _ < 256; omega)
  rw [lead?, hbyte, if_neg (by omega), if_neg (by omega), if_neg (by omega), if_neg (by omega)]
  by_cases hfirst : n / 262144 = 0
  · rw [if_pos (by omega)]
    exact ⟨_, rfl, .of_bounds (by omega) (by omega) (by omega)⟩
  · rw [if_neg (by omega)]
    by_cases hlast : n / 262144 = 4
    · rw [if_pos (by omega)]
      exact ⟨_, rfl, .of_bounds (by omega) (by omega) (by omega)⟩
    · rw [if_neg (by omega), if_pos (by omega)]
      exact ⟨_, rfl, .of_bounds (by omega) (by omega) (by omega)⟩

/-- A byte that leads others is none of ASCII. -/
theorem decodeFrom_lead {b : UInt8} {position : Nat} {p : Partial} (h : lead? b position = some p)
    (rest : List UInt8) :
    decodeFrom position none (b :: rest) = decodeFrom (position + 1) (some p) rest := by
  have hb : ¬ b < 0x80 := by
    intro hb
    have hlt : b.toNat < 128 := hb
    rw [lead?, if_neg (by omega), if_neg (by omega), if_neg (by omega), if_neg (by omega),
      if_neg (by omega), if_neg (by omega), if_neg (by omega)] at h
    cases h
  rw [decodeFrom, if_neg hb, h]

/-- The bytes of a character are read as the character. -/
theorem decodeFrom_utf8EncodeChar (c : Char) (position : Nat) (rest : List UInt8) :
    ∃ next, decodeFrom position none (String.utf8EncodeChar c ++ rest) =
      (decodeFrom next none rest).map (.char c :: ·) := by
  have hvalid : c.toNat < 0xD800 ∨ 0xDFFF < c.toNat ∧ c.toNat < 0x110000 := c.valid
  have hencode : String.utf8EncodeChar c =
      if c.toNat ≤ 0x7F then [UInt8.ofNat c.toNat]
      else if c.toNat ≤ 0x7FF then UInt8.ofNat (c.toNat / 64 % 32 + 0xC0) :: tailBytes 1 c.toNat
      else if c.toNat ≤ 0xFFFF then
        UInt8.ofNat (c.toNat / 4096 % 16 + 0xE0) :: tailBytes 2 c.toNat
      else UInt8.ofNat (c.toNat / 262144 % 8 + 0xF0) :: tailBytes 3 c.toNat := by
    simp [String.utf8EncodeChar, tailBytes]
  have hlead {b : UInt8} {count : Nat}
      (h : ∃ p, lead? b position = some p ∧ p.Expects count c.toNat) :
      ∃ next, decodeFrom position none (b :: tailBytes (count + 1) c.toNat ++ rest) =
        (decodeFrom next none rest).map (.char c :: ·) := by
    obtain ⟨p, hp, hexpects⟩ := h
    rw [List.cons_append, decodeFrom_lead hp]
    simpa only [Char.ofNat_toNat] using decodeFrom_tailBytes hexpects (position + 1) rest
  -- as many bytes follow the first one as the code point needs
  rw [hencode]
  by_cases hzero : c.toNat ≤ 0x7F
  · have hbyte : (UInt8.ofNat c.toNat).toNat = c.toNat :=
      UInt8.toNat_ofNat_of_lt' (by show _ < 256; omega)
    have hascii : UInt8.ofNat c.toNat < 0x80 := by
      rw [UInt8.lt_iff_toNat_lt, hbyte]
      show _ < 128
      omega
    refine ⟨position + 1, ?_⟩
    rw [if_pos hzero, List.singleton_append, decodeFrom, if_pos hascii, hbyte, Char.ofNat_toNat]
    cases decodeFrom (position + 1) none rest <;> rfl
  · rw [if_neg hzero]
    by_cases hone : c.toNat ≤ 0x7FF
    · rw [if_pos hone]
      exact hlead (exists_lead?_one (by omega) hone position)
    · rw [if_neg hone]
      by_cases htwo : c.toNat ≤ 0xFFFF
      · rw [if_pos htwo]
        exact hlead (exists_lead?_two (by omega) htwo (by omega) position)
      · rw [if_neg htwo]
        exact hlead (exists_lead?_three (by omega) (by omega) position)

/-- The bytes of characters are read as the characters. -/
theorem decodeFrom_flatMap (chars : List Char) (position : Nat) :
    decodeFrom position none (chars.flatMap String.utf8EncodeChar) = .ok (chars.map .char) := by
  induction chars generalizing position with
  | nil => rfl
  | cons c chars ih =>
    obtain ⟨next, hnext⟩ :=
      decodeFrom_utf8EncodeChar c position (chars.flatMap String.utf8EncodeChar)
    rw [List.flatMap_cons, hnext, ih]
    rfl

theorem unencodable?_eq_none_iff {t : Text} : unencodable? t = none ↔ t.isUnicode := by
  rw [Text.isUnicode, List.all_eq_true, ← List.dropWhile_eq_nil_iff, unencodable?]
  cases t.dropWhile (!·.isSurrogate) <;> simp

/-- A text has bytes if no surrogate stands alone in it. -/
theorem encode_eq_ok_iff {t : Text} {bytes : List UInt8} :
    encode t = .ok bytes ↔ t.isUnicode ∧ t.chars.flatMap String.utf8EncodeChar = bytes := by
  rw [← unencodable?_eq_none_iff, encode]
  cases unencodable? t <;> simp

end Utf8

/-- A text without surrogates is its characters. -/
theorem Text.map_chars {t : Text} (h : t.isUnicode) : t.chars.map .char = t := by
  induction t with
  | nil => rfl
  | cons p t ih =>
    rw [isUnicode, List.all_cons, Bool.and_eq_true] at h
    cases p with
    | char c => exact congrArg (.char c :: ·) (ih h.2)
    | surrogate half => cases h.1

theorem Text.isUnicode_surrogateEscaped (t : Text) : t.surrogateEscaped.isUnicode := by
  have hpoint (p : CodePoint) : (surrogateEscape p).isUnicode := by
    cases p with
    | char c => rfl
    | surrogate half => rfl
  rw [isUnicode, surrogateEscaped, List.all_flatMap, List.all_eq_true]
  exact fun p _ => hpoint p

/-- The string of a text loses nothing: it shows the surrogates written out. -/
theorem Text.map_toList_toString (t : Text) :
    (Text.toString t).toList.map .char = t.surrogateEscaped := by
  rw [Text.toString, String.toList_ofList, map_chars t.isUnicode_surrogateEscaped]

/-- The bytes of a text are read as the text. -/
theorem Utf8.decode_of_encode {t : Text} {bytes : List UInt8} (h : encode t = .ok bytes) :
    decode bytes = .ok t := by
  obtain ⟨hunicode, rfl⟩ := encode_eq_ok_iff.1 h
  rw [decode, decodeFrom_flatMap, Text.map_chars hunicode]

end Playback
