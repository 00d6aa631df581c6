import Playback.Json.Basic
import Playback.Number.Integer

/-!
# The tokens of a JSON text

* `Json.Token`: a bracket, a mark, a literal, or a character that begins no token. A string or a
  whole number that cannot be read is a token too: whether its fault is the first one of the text is
  for the reader of the tokens to say.
* `Json.tokens`: the tokens of a text, which only space, tab, line feed and carriage return
  separate. Behind a string that cannot be read there are no further tokens.
* `Json.scanNumber?`: a number at the beginning of a text. A number with a fraction or an exponent
  is a floating-point number, any other a whole number.
-/

namespace Playback

namespace Json

/-- A token of a JSON text. -/
inductive Token where
  | openList
  | closeList
  | openObject
  | closeObject
  | comma
  | colon
  | null
  | bool (value : Bool)
  | number (value : Number)
  | text (value : Text)
  /-- A string that cannot be read. -/
  | badText (fault : Quoted.Fault)
  /-- A whole number of more than `Integer.maxDigits` digits. -/
  | hugeNumber (digits : Nat)
  /-- A character that begins no token. -/
  | stray
  deriving DecidableEq

/-- Space, tab, line feed and carriage return. -/
def isSeparator (p : CodePoint) : Bool :=
  p == .char ' ' || p == .char '\t' || p == .char '\n' || p == .char '\r'

/-- The ASCII digits that a text begins with, and the rest of it. -/
def spanDigits (t : Text) : Text × Text :=
  (t.takeWhile CodePoint.isAsciiDigit, t.dropWhile CodePoint.isAsciiDigit)

/-- The number that ASCII digits write. -/
def digitsValue (digits : Text) : Nat :=
  Integer.ofDigits (digits.map fun p => p.toNat - '0'.toNat)

/-- The digits behind the point that a text begins with, and the rest; no digits and the whole text
if it does not begin with a point and a digit. -/
def scanFraction (t : Text) : Text × Text :=
  match t with
  | .char '.' :: rest => if (spanDigits rest).1.isEmpty then ([], t) else spanDigits rest
  | _ => ([], t)

/-- Does the text begin with a minus sign? And what follows the sign that it begins with, if it does
with one. -/
def scanSign : Text → Bool × Text
  | .char '-' :: rest => (true, rest)
  | .char '+' :: rest => (false, rest)
  | t => (false, t)

/-- The exponent that a text begins with, and the rest; the whole text if it begins with none. -/
def scanExponent (t : Text) : Option Int × Text :=
  match t with
  | .char e :: rest =>
    if e = 'e' ∨ e = 'E' then
      let (negative, magnitude) := scanSign rest
      let (digits, rest) := spanDigits magnitude
      if digits.isEmpty then (none, t)
      else (some (if negative then -(digitsValue digits : Int) else digitsValue digits), rest)
    else (none, t)
  | _ => (none, t)

/-- The whole part of a number, which has no zero in front of other digits, and the rest. -/
def scanWhole : Text → Text × Text
  | .char '0' :: rest => ([.char '0'], rest)
  | t => spanDigits t

/-- The number that a sign, a whole part, a fraction and an exponent write. -/
def numberToken (negative : Bool) (whole fraction : Text) (exponent? : Option Int) : Token :=
  if fraction.isEmpty && exponent?.isNone then
    if whole.length > Integer.maxDigits then .hugeNumber whole.length
    else
      let value : Int := digitsValue whole
      .number (.int (if negative then -value else value))
  else
    .number (.float
      (.ofDecimal negative (digitsValue (whole ++ fraction)) (exponent?.getD 0 - fraction.length)))

/-- A number without its sign at the beginning of a text, and the rest. -/
def scanMagnitude? (negative : Bool) (t : Text) : Option (Token × Text) :=
  let (whole, afterWhole) := scanWhole t
  let (fraction, afterFraction) := scanFraction afterWhole
  let (exponent?, rest) := scanExponent afterFraction
  if whole.isEmpty then none else some (numberToken negative whole fraction exponent?, rest)

/-- A number at the beginning of a text, and the rest. -/
def scanNumber? : Text → Option (Token × Text)
  | .char '-' :: rest => scanMagnitude? true rest
  | t => scanMagnitude? false t

/-- The words that are tokens. -/
def words : List (Text × Token) :=
  [("null", .null), ("true", .bool true), ("false", .bool false),
    ("NaN", .number (.float .nan)), ("Infinity", .number (.float (.infinite false))),
    ("-Infinity", .number (.float (.infinite true)))]

/-- A word at the beginning of a text, and the rest. -/
def scanWord? (t : Text) : Option (Token × Text) :=
  words.findSome? fun (word, token) => (t.after? word).map (token, ·)

/-- The mark that a code point is. -/
def mark? : CodePoint → Option Token
  | .char '[' => some .openList
  | .char ']' => some .closeList
  | .char '\x7b' => some .openObject
  | .char '\x7d' => some .closeObject
  | .char ',' => some .comma
  | .char ':' => some .colon
  | _ => none

/-- The first token of a text that does not begin with a separator, and the rest behind it. -/
def scanToken (p : CodePoint) (rest : Text) : Token × Text :=
  if p = .char '"' then
    match Quoted.scan rest with
    | .ok (content, rest) => (.text content, rest)
    | .error fault => (.badText fault, [])
  else
    match mark? p with
    | some token => (token, rest)
    | none => ((scanWord? (p :: rest)).or (scanNumber? (p :: rest))).getD (.stray, rest)

theorem length_spanDigits (t : Text) :
    (spanDigits t).1.length + (spanDigits t).2.length = t.length := by
  rw [spanDigits, ← List.length_append, List.takeWhile_append_dropWhile]

theorem length_scanFraction (t : Text) : (scanFraction t).2.length ≤ t.length := by
  unfold scanFraction
  split
  · next rest =>
    have := length_spanDigits rest
    split <;> simp only [List.length_cons] <;> omega
  · exact Nat.le_refl _

theorem length_scanSign (t : Text) : (scanSign t).2.length ≤ t.length := by
  unfold scanSign
  split <;> simp

theorem length_scanExponent (t : Text) : (scanExponent t).2.length ≤ t.length := by
  unfold scanExponent
  split
  · next e rest =>
    split
    · have := length_scanSign rest
      have := length_spanDigits (scanSign rest).2
      dsimp only
      split <;> simp only [List.length_cons] <;> omega
    · exact Nat.le_refl _
  · exact Nat.le_refl _

theorem length_scanWhole (t : Text) :
    (scanWhole t).1.length + (scanWhole t).2.length = t.length := by
  unfold scanWhole
  split
  · simp; omega
  · exact length_spanDigits t

theorem length_scanMagnitude? {negative : Bool} {t rest : Text} {token : Token}
    (h : scanMagnitude? negative t = some (token, rest)) : rest.length < t.length := by
  have hw := length_scanWhole t
  have hf := length_scanFraction (scanWhole t).2
  have he := length_scanExponent (scanFraction (scanWhole t).2).2
  simp only [scanMagnitude?] at h
  split at h
  · cases h
  · next hn =>
    cases h
    have : 0 < (scanWhole t).1.length := by
      rcases hs : (scanWhole t).1 with _ | _
      · simp [hs] at hn
      · simp
    omega

theorem length_scanNumber? {t rest : Text} {token : Token}
    (h : scanNumber? t = some (token, rest)) : rest.length < t.length := by
  unfold scanNumber? at h
  split at h
  · have := length_scanMagnitude? h
    simp only [List.length_cons]
    omega
  · exact length_scanMagnitude? h

theorem length_scanWord? {t rest : Text} {token : Token}
    (h : scanWord? t = some (token, rest)) : rest.length < t.length := by
  obtain ⟨⟨word, token'⟩, hmem, hw⟩ := List.exists_of_findSome?_eq_some h
  obtain ⟨rest', hrest, heq⟩ := Option.map_eq_some_iff.1 hw
  cases heq
  have hword : ∀ entry ∈ words, 0 < entry.1.length := by decide
  have hpos : 0 < word.length := hword _ hmem
  rw [Text.after?_eq_some hrest, List.length_append]
  omega

/-- A token uses up at least one code point. -/
theorem length_scanToken (p : CodePoint) (rest : Text) :
    (scanToken p rest).2.length ≤ rest.length := by
  unfold scanToken
  split
  · split
    · next hs => exact Nat.le_of_lt (Quoted.length_scan hs)
    · simp
  · split
    · exact Nat.le_refl _
    · rcases hw : scanWord? (p :: rest) with _ | ⟨token, after⟩
      · rcases hn : scanNumber? (p :: rest) with _ | ⟨token, after⟩
        · simp
        · have := length_scanNumber? hn
          simp only [List.length_cons] at this
          simpa using Nat.le_of_lt_succ this
      · have := length_scanWord? hw
        simp only [List.length_cons] at this
        simpa using Nat.le_of_lt_succ this

/-- The tokens of a text. -/
def tokens (t : Text) : List Token :=
  match t with
  | [] => []
  | p :: rest =>
    if isSeparator p then tokens rest
    else (scanToken p rest).1 :: tokens (scanToken p rest).2
  termination_by t.length
  decreasing_by
    · simp
    · exact Nat.lt_succ_of_le (length_scanToken p rest)

end Json

end Playback
