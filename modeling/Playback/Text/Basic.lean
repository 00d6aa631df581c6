/-!
# Code points and texts

A recording is JSON, and a JSON string may hold one half of a surrogate pair without the other, so
text here is a list of code points and not of Unicode scalar values.

* `CodePoint`: a scalar value, or a surrogate that stands alone. `CodePoint.toNat` is its number and
  `CodePoint.ofNat` the code point of a number.
* `Text`: a list of code points; a `String` coerces to it.
* `Text.le`: the order by code point numbers, in which keys, names and modules are sorted.
* `Text.sortedSet`: the distinct texts of a list, ascending.
* `Text.joined`, `Text.ofNat`, `Text.ofInt`: a list with separators, and whole numbers in decimal.
-/

namespace Playback

/-- A code point of decoded text: a Unicode scalar value, or a surrogate that stands alone. -/
inductive CodePoint where
  | char (c : Char)
  | surrogate (half : Fin 0x800)
  deriving DecidableEq

namespace CodePoint

instance : Coe Char CodePoint := ⟨.char⟩

/-- The number of a code point, below `0x110000`. -/
def toNat : CodePoint → Nat
  | .char c => c.toNat
  | .surrogate half => 0xD800 + half

/-- The code point of a number below `0x110000`. -/
def ofNat (n : Nat) : CodePoint :=
  if h : 0xD800 ≤ n ∧ n < 0xE000 then .surrogate ⟨n - 0xD800, by omega⟩ else .char (Char.ofNat n)

/-- Is the code point an ASCII digit? -/
def isAsciiDigit : CodePoint → Bool
  | .char c => '0' ≤ c && c ≤ '9'
  | .surrogate _ => false

/-- Is the code point an ASCII letter? -/
def isAsciiLetter : CodePoint → Bool
  | .char c => ('a' ≤ c && c ≤ 'z') || ('A' ≤ c && c ≤ 'Z')
  | .surrogate _ => false

/-- ASCII letters in lower case, all else as it is. -/
def toAsciiLower : CodePoint → CodePoint
  | .char c => .char c.toLower
  | p => p

end CodePoint

/-- A text: its code points in order. -/
abbrev Text := List CodePoint

namespace Text

/-- The code points of a string. -/
def ofString (s : String) : Text := s.toList.map .char

instance : Coe String Text := ⟨ofString⟩

/-- The characters of a text. A surrogate that stands alone is none. -/
def chars (t : Text) : List Char :=
  t.filterMap fun
    | .char c => some c
    | .surrogate _ => none

/-- The texts one after the other, with `separator` between neighbours. -/
def joined (separator : Text) (parts : List Text) : Text := List.intercalate separator parts

/-- A natural number in the digits of a base up to sixteen. -/
def ofDigits (base n : Nat) : Text := (Nat.toDigits base n).map .char

/-- A natural number in decimal digits. -/
def ofNat (n : Nat) : Text := ofDigits 10 n

/-- A whole number in decimal digits, with `-` in front of a negative one. -/
def ofInt : Int → Text
  | .ofNat n => ofNat n
  | .negSucc n => .char '-' :: ofNat (n + 1)

/-- The order by code point numbers, position by position; a proper beginning comes first. -/
def le : Text → Text → Bool
  | [], _ => true
  | _ :: _, [] => false
  | a :: s, b :: t => a.toNat < b.toNat || (a.toNat == b.toNat && le s t)

/-- A text put into an ascending list without repetition; one that is there already is not put
in again. -/
def insertInto (t : Text) : List Text → List Text
  | [] => [t]
  | u :: rest =>
    if t = u then u :: rest else if le t u then t :: u :: rest else u :: insertInto t rest

/-- The distinct texts of a list, ascending. -/
def sortedSet (texts : List Text) : List Text := texts.foldr insertInto []

/-- The text without its longest beginning and end of code points in the class `p`. -/
def trim (p : CodePoint → Bool) (t : Text) : Text :=
  ((t.dropWhile p).reverse.dropWhile p).reverse

/-- What follows `lead`, if the text begins with it. -/
def after? : Text → (lead : Text) → Option Text
  | t, [] => some t
  | [], _ :: _ => none
  | b :: t, a :: lead => if a = b then after? t lead else none

theorem after?_eq_some {t lead rest : Text} (h : t.after? lead = some rest) : t = lead ++ rest := by
  fun_induction after? t lead with
  | case1 t => simpa using h
  | case2 => simp at h
  | case3 b t lead ih => simp [ih h]
  | case4 => simp at h

end Text

end Playback
