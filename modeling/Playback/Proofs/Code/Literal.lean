import Playback.Text.Quoted

/-!
# The values of string literals

The language of the generated program reads a literal by rules of its own, which know more escapes
than `Quoted.encode` writes. Its readers see what stands between two double quotes on one line.

* `Literal.escape?`: what a backslash and the text behind it stand for, and how many code points of
  that text belong to the escape. A backslash that escapes nothing stands for itself. Names of
  characters (`\N`) have no value here: no literal that is written has one.
* `Literal.value?`: the value of a literal, given what stands between its quotes.
* `Literal.value?_escaped`: the value of a text that `Quoted.escape` escapes is the text.
-/

namespace Playback

theorem CodePoint.ofNat_toNat (p : CodePoint) : CodePoint.ofNat p.toNat = p := by
  rcases p with c | half
  · have hc : ¬ (0xD800 ≤ c.toNat ∧ c.toNat < 0xE000) := by
      rcases c.valid with h | h <;> simp only [Char.toNat, UInt32.toNat] at * <;> omega
    rw [toNat, ofNat, dif_neg hc, Char.ofNat_toNat]
  · have hh : 0xD800 ≤ 0xD800 + (half : Nat) ∧ 0xD800 + (half : Nat) < 0xE000 := by omega
    rw [toNat, ofNat, dif_pos hh]
    exact congrArg surrogate (Fin.ext (Nat.add_sub_cancel_left ..))

namespace Literal

/-- What a backslash and one character behind it stand for. An escaped end of the line stands for
nothing. -/
def marks : List (Char × Text) :=
  [('\n', []), ('\\', "\\"), ('\'', "'"), ('"', "\""), ('a', "\x07"), ('b', "\x08"),
    ('f', "\x0c"), ('n', "\n"), ('r', "\r"), ('t', "\t"), ('v', "\x0b")]

/-- The code point that a number in a base is the number of, if there is such a code point. -/
def numbered? (base : Nat) (digits : List Nat) : Option CodePoint :=
  let n := digits.foldl (fun n digit => base * n + digit) 0
  if n < 0x110000 then some (.ofNat n) else none

/-- The code point of a number in exactly `count` hexadecimal digits. -/
def hexadecimal? (count : Nat) (t : Text) : Option (Text × Nat) := do
  let digits ← (t.take count).mapM Quoted.hexValue?
  if digits.length = count then return ([← numbered? 16 digits], count + 1) else none

/-- The octal digits that a text begins with, at most three. -/
def octalDigits (t : Text) : List Nat :=
  ((t.take 3).takeWhile fun p => '0'.toNat ≤ p.toNat && p.toNat < '8'.toNat).map
    fun p => p.toNat - '0'.toNat

/-- What a backslash and the text behind it stand for, and how much of that text is the escape. -/
def escape? : Text → Option (Text × Nat)
  | [] => none
  | .char 'x' :: rest => hexadecimal? 2 rest
  | .char 'u' :: rest => hexadecimal? 4 rest
  | .char 'U' :: rest => hexadecimal? 8 rest
  | .char 'N' :: _ => none
  | .char c :: rest =>
    match marks.lookup c, octalDigits (.char c :: rest) with
    | some value, _ => some (value, 1)
    | none, [] => some ([.char '\\', .char c], 1)
    | none, digits => (numbered? 8 digits).map fun p => ([p], digits.length)
  | .surrogate half :: _ => some ([.char '\\', .surrogate half], 1)

/-- The value of what is left of a literal, the first code points of which belong to an escape that
was read before. -/
def valueBehind : Nat → Text → Option Text
  | 0, [] => some []
  | _ + 1, [] => none
  | escaped + 1, _ :: rest => valueBehind escaped rest
  | 0, p :: rest =>
    if p = .char '\\' then do
      let (value, length) ← escape? rest
      return value ++ (← valueBehind length rest)
    else if p = .char '"' ∨ p = .char '\n' ∨ p = .char '\r' then none
    else return p :: (← valueBehind 0 rest)

/-- The value of a literal, given what stands between its quotes. -/
def value? (content : Text) : Option Text := valueBehind 0 content

theorem hexValue?_hexDigit {n : Nat} (h : n < 16) :
    Quoted.hexValue? (Quoted.hexDigit n) = some n := by
  have : ∀ n : Fin 16, Quoted.hexValue? (Quoted.hexDigit n) = some n.val := by decide
  exact this ⟨n, h⟩

theorem valueBehind_backslash {t value : Text} {length : Nat}
    (h : escape? t = some (value, length)) :
    valueBehind 0 (.char '\\' :: t) = (valueBehind length t).map (value ++ ·) := by
  rw [valueBehind, if_pos rfl, h, Option.map_eq_bind]
  rfl

/-- A mark behind a backslash is read as the code point that it stands for. -/
theorem valueBehind_mark {c : Char} {p : CodePoint} (h : marks.lookup c = some [p])
    (hc : c ∉ ['x', 'u', 'U', 'N']) (rest : Text) :
    valueBehind 0 (.char '\\' :: .char c :: rest) = (valueBehind 0 rest).map (p :: ·) := by
  have hmark : escape? (.char c :: rest) = some ([p], 1) := by
    unfold escape?
    split <;> simp_all
  exact valueBehind_backslash hmark

/-- The hexadecimal escape of a control character is read as the character. -/
theorem escape?_control {n : Nat} (h : n < 0x20) (rest : Text) :
    escape? (.char 'u' :: .char '0' :: .char '0' :: Quoted.hexDigit (n / 16) ::
      Quoted.hexDigit (n % 16) :: rest) = some ([.ofNat n], 5) := by
  have h0 : Quoted.hexValue? (.char '0') = some 0 := by decide
  have hd : Quoted.hexValue? (Quoted.hexDigit (n / 16)) = some (n / 16) :=
    hexValue?_hexDigit (by omega)
  have hm : Quoted.hexValue? (Quoted.hexDigit (n % 16)) = some (n % 16) :=
    hexValue?_hexDigit (by omega)
  have hn : 16 * (n / 16) + n % 16 = n := Nat.div_add_mod n 16
  have hlt : n < 0x110000 := by omega
  simp [escape?, hexadecimal?, numbered?, h0, hd, hm, hn, hlt]

/-- An escaped code point in a literal is read as the code point. -/
theorem valueBehind_escape (p : CodePoint) (rest : Text) :
    valueBehind 0 (Quoted.escape p ++ rest) = (valueBehind 0 rest).map (p :: ·) := by
  unfold Quoted.escape
  split
  iterate 7
    · exact valueBehind_mark (by decide) (by decide) rest
  · next hq hb hn hr _ _ _ =>
    split
    · next hc =>
      have hvalue := valueBehind_backslash (escape?_control hc rest)
      rw [CodePoint.ofNat_toNat] at hvalue
      exact hvalue
    · have hlit : ¬ (p = .char '"' ∨ p = .char '\n' ∨ p = .char '\r') :=
        fun h => h.elim hq fun h => h.elim hn hr
      rw [List.singleton_append, valueBehind, if_neg hb, if_neg hlit, Option.map_eq_bind]
      rfl

/-- The value of an escaped text is the text. -/
theorem value?_escaped (t : Text) : value? (t.flatMap Quoted.escape) = some t := by
  unfold value?
  induction t with
  | nil => rfl
  | cons p t ih => rw [List.flatMap_cons, valueBehind_escape, ih]; rfl

end Literal

end Playback
