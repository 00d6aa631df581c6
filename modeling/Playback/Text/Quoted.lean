import Playback.Text.Basic

/-!
# Double-quoted literals

A literal is a text between double quotes. Inside it a quote, a backslash and every control
character below U+0020 are escaped, and everything else stands for itself.

* `Quoted.encode`: the literal of a text.
* `Quoted.scan`: what follows an opening quote, read up to the closing one: the text and the rest
  behind it. Reading admits more than writing produces: `\/`, and `\u` escapes of any character. Two
  `\u` escapes that are the halves of a surrogate pair are one code point; a half without its
  partner stays alone.
* `Quoted.Fault`: why a literal cannot be read.
-/

namespace Playback

namespace Quoted

/-- The lower-case hexadecimal digit of a number below sixteen. -/
def hexDigit (n : Nat) : CodePoint := .char (Nat.digitChar n)

/-- How a code point is written inside a literal. -/
def escape : CodePoint → Text
  | .char '"' => "\\\""
  | .char '\\' => "\\\\"
  | .char '\n' => "\\n"
  | .char '\r' => "\\r"
  | .char '\t' => "\\t"
  | .char '\x08' => "\\b"
  | .char '\x0c' => "\\f"
  | p =>
    if p.toNat < 0x20 then "\\u00" ++ [hexDigit (p.toNat / 16), hexDigit (p.toNat % 16)]
    else [p]

/-- The literal of a text. -/
def encode (t : Text) : Text := .char '"' :: (t.flatMap escape ++ [.char '"'])

/-- Why a literal cannot be read. -/
inductive Fault where
  /-- The closing quote is missing. -/
  | unterminated
  /-- A control character stands in the literal as itself. -/
  | controlCharacter
  /-- A backslash is followed by a character that it does not escape. -/
  | escape
  /-- A `\u` is not followed by four hexadecimal digits inside the literal. -/
  | unicodeEscape
  deriving DecidableEq

/-- The value of a hexadecimal digit, in either case. -/
def hexValue? : CodePoint → Option Nat
  | .char c =>
    if '0' ≤ c ∧ c ≤ '9' then some (c.toNat - '0'.toNat)
    else if 'a' ≤ c ∧ c ≤ 'f' then some (c.toNat - 'a'.toNat + 10)
    else if 'A' ≤ c ∧ c ≤ 'F' then some (c.toNat - 'A'.toNat + 10)
    else none
  | .surrogate _ => none

/-- The number of four hexadecimal digits. -/
def hexNumber? (a b c d : CodePoint) : Option Nat := do
  return (((← hexValue? a) * 16 + (← hexValue? b)) * 16 + (← hexValue? c)) * 16 + (← hexValue? d)

/-- What a backslash and the character after it stand for, `\u` apart. -/
def unescape? : CodePoint → Option CodePoint
  | .char '"' => some '"'
  | .char '\\' => some '\\'
  | .char '/' => some '/'
  | .char 'b' => some '\x08'
  | .char 'f' => some '\x0c'
  | .char 'n' => some '\n'
  | .char 'r' => some '\r'
  | .char 't' => some '\t'
  | _ => none

/-- One item of a literal: a code point, or the number of a `\u` escape. -/
inductive Item where
  | plain (p : CodePoint)
  | unit (n : Nat)

/-- An item in front of the items that were read after it. -/
def Item.before (item : Item) : List Item × Text → List Item × Text
  | (items, rest) => (item :: items, rest)

/-- The items up to the closing quote, and what is behind the quote. -/
def scanItems : Text → Except Fault (List Item × Text)
  | [] => .error .unterminated
  | .char '"' :: rest => .ok ([], rest)
  | [.char '\\'] => .error .unterminated
  | .char '\\' :: .char 'u' :: a :: b :: c :: d :: p :: rest =>
    match hexNumber? a b c d with
    | some n => (scanItems (p :: rest)).map (Item.unit n).before
    | none => .error .unicodeEscape
  | .char '\\' :: .char 'u' :: _ => .error .unicodeEscape
  | .char '\\' :: p :: rest =>
    match unescape? p with
    | some q => (scanItems rest).map (Item.plain q).before
    | none => .error .escape
  | p :: rest =>
    if p.toNat < 0x20 then .error .controlCharacter
    else (scanItems rest).map (Item.plain p).before

/-- An item in front leaves the rest behind the literal as it is. -/
theorem rest_of_map_before {read : Except Fault (List Item × Text)} {item : Item}
    {items : List Item} {rest : Text} (h : read.map item.before = .ok (items, rest)) :
    ∃ later, read = .ok (later, rest) := by
  rcases read with fault | ⟨later, rest'⟩
  · cases h
  · cases h; exact ⟨later, rfl⟩

/-- Reading a literal uses up at least its closing quote. -/
theorem length_scanItems {t rest : Text} {items : List Item} (h : scanItems t = .ok (items, rest)) :
    rest.length < t.length := by
  fun_induction scanItems t generalizing items with
  | case1 | case3 | case5 | case6 | case8 | case9 => cases h
  | case2 r => cases h; simp
  | case4 a b c d p r n hn ih =>
    obtain ⟨later, hr⟩ := rest_of_map_before h
    have := ih hr
    simp only [List.length_cons] at this ⊢
    omega
  | case7 p r hp hp' q hq ih =>
    obtain ⟨later, hr⟩ := rest_of_map_before h
    have := ih hr
    simp only [List.length_cons]
    omega
  | case10 p r _ _ _ _ _ hc ih =>
    obtain ⟨later, hr⟩ := rest_of_map_before h
    have := ih hr
    simp only [List.length_cons]
    omega

/-- Is the number the first half of a surrogate pair? -/
def isHighHalf (n : Nat) : Bool := 0xD800 ≤ n && n < 0xDC00

/-- Is the number the second half of a surrogate pair? -/
def isLowHalf (n : Nat) : Bool := 0xDC00 ≤ n && n < 0xE000

/-- The code points of the items; two neighbouring `\u` escapes that make a pair are one. -/
def Item.join : List Item → Text
  | [] => []
  | .plain p :: rest => p :: join rest
  | .unit n :: .unit m :: rest =>
    if isHighHalf n && isLowHalf m then
      .ofNat (0x10000 + (n - 0xD800) * 0x400 + (m - 0xDC00)) :: join rest
    else .ofNat n :: join (.unit m :: rest)
  | .unit n :: rest => .ofNat n :: join rest

/-- What follows an opening quote: the text up to the closing quote, and the rest behind it. -/
def scan (t : Text) : Except Fault (Text × Text) :=
  (scanItems t).map fun (items, rest) => (Item.join items, rest)

theorem length_scan {t content rest : Text} (h : scan t = .ok (content, rest)) :
    rest.length < t.length := by
  unfold scan at h
  rcases hs : scanItems t with fault | ⟨items, rest'⟩
  · rw [hs] at h; cases h
  · rw [hs] at h; cases h; exact length_scanItems hs

/-- The text of a whole literal. -/
def decode? : Text → Option Text
  | .char '"' :: t =>
    match scan t with
    | .ok (content, []) => some content
    | _ => none
  | _ => none

end Quoted

end Playback
