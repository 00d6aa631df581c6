import Playback.Text.Surrogate

/-!
# UTF-8

A sequence of bytes is read one code point at a time. A lead byte says how many continuation bytes
follow and in which range the first of them lies, which excludes surrogates, numbers beyond U+10FFFF
and encodings that are longer than needed. A text is written the other way round, unless it holds a
surrogate that stands alone.

* `Utf8.decode`: the text of a list of bytes.
* `Utf8.Fault`: the bytes that belong to no code point, and why; `Utf8.Fault.message` says it in
  words.
* `Utf8.encode`: the bytes of a text.
* `Utf8.Unencodable`: the code points that have no bytes; `Utf8.Unencodable.message` says it in
  words, and `Utf8.unencodable?` finds the first of them.
-/

namespace Playback

namespace Utf8

/-- Why bytes belong to no code point. -/
inductive Reason where
  | invalidStart
  | invalidContinuation
  | unexpectedEnd
  deriving DecidableEq

/-- The reason in words. -/
def Reason.message : Reason → Text
  | .invalidStart => "invalid start byte"
  | .invalidContinuation => "invalid continuation byte"
  | .unexpectedEnd => "unexpected end of data"

/-- The bytes from `start` up to `stop` belong to no code point; `first` is the first of them. -/
structure Fault where
  first : UInt8
  start : Nat
  stop : Nat
  reason : Reason
  deriving DecidableEq

/-- The fault in words. -/
def Fault.message (fault : Fault) : Text :=
  let place : Text :=
    if fault.stop = fault.start + 1 then
      "byte 0x" ++ Text.ofDigits 16 fault.first.toNat ++ " in position " ++ Text.ofNat fault.start
    else
      "bytes in position " ++ Text.ofNat fault.start ++ "-" ++ Text.ofNat (fault.stop - 1)
  "'utf-8' codec can't decode " ++ place ++ ": " ++ fault.reason.message

/-- A code point of which some bytes are read: its lead byte and where that is, how many bytes are
missing, the range of the next one, and the bits read so far. -/
structure Partial where
  first : UInt8
  start : Nat
  missing : Nat
  low : Nat
  high : Nat
  bits : Nat

/-- The beginning of a code point of more than one byte with the lead byte `b` at a position. -/
def lead? (b : UInt8) (position : Nat) : Option Partial :=
  let n := b.toNat
  let begin (missing low high bits : Nat) : Option Partial :=
    some ⟨b, position, missing, low, high, bits⟩
  if 0xC2 ≤ n ∧ n < 0xE0 then begin 1 0x80 0xBF (n - 0xC0)
  else if n = 0xE0 then begin 2 0xA0 0xBF 0
  else if n = 0xED then begin 2 0x80 0x9F (n - 0xE0)
  else if 0xE0 ≤ n ∧ n < 0xF0 then begin 2 0x80 0xBF (n - 0xE0)
  else if n = 0xF0 then begin 3 0x90 0xBF 0
  else if n = 0xF4 then begin 3 0x80 0x8F 4
  else if 0xF0 ≤ n ∧ n < 0xF4 then begin 3 0x80 0xBF (n - 0xF0)
  else none

/-- The text of the bytes from a position on, behind a code point that is read in part. -/
def decodeFrom (position : Nat) : Option Partial → List UInt8 → Except Fault Text
  | none, [] => .ok []
  | some p, [] => .error ⟨p.first, p.start, position, .unexpectedEnd⟩
  | none, b :: rest =>
    if b < 0x80 then do
      return .char (Char.ofNat b.toNat) :: (← decodeFrom (position + 1) none rest)
    else
      match lead? b position with
      | some p => decodeFrom (position + 1) (some p) rest
      | none => .error ⟨b, position, position + 1, .invalidStart⟩
  | some p, b :: rest =>
    if p.low ≤ b.toNat ∧ b.toNat ≤ p.high then
      let bits := p.bits * 64 + (b.toNat - 0x80)
      if p.missing ≤ 1 then do
        return .char (Char.ofNat bits) :: (← decodeFrom (position + 1) none rest)
      else
        decodeFrom (position + 1)
          (some { p with missing := p.missing - 1, low := 0x80, high := 0xBF, bits := bits }) rest
    else .error ⟨p.first, p.start, position, .invalidContinuation⟩

/-- The text of a list of bytes. -/
def decode (bytes : List UInt8) : Except Fault Text := decodeFrom 0 none bytes

/-- The surrogates from `start` up to `stop` have no bytes; `first` is the first of them. -/
structure Unencodable where
  first : CodePoint
  start : Nat
  stop : Nat
  deriving DecidableEq

/-- The fault in words. -/
def Unencodable.message (fault : Unencodable) : Text :=
  let place : Text :=
    if fault.stop = fault.start + 1 then
      "character '" ++ Text.surrogateEscape fault.first ++ "' in position " ++
        Text.ofNat fault.start
    else
      "characters in position " ++ Text.ofNat fault.start ++ "-" ++ Text.ofNat (fault.stop - 1)
  "'utf-8' codec can't encode " ++ place ++ ": surrogates not allowed"

/-- The first surrogate of a text, together with those right behind it. -/
def unencodable? (t : Text) : Option Unencodable :=
  match t.dropWhile (!·.isSurrogate) with
  | [] => none
  | first :: rest =>
    let start := (t.takeWhile (!·.isSurrogate)).length
    some ⟨first, start, start + 1 + (rest.takeWhile CodePoint.isSurrogate).length⟩

/-- The bytes of a text. -/
def encode (t : Text) : Except Unencodable (List UInt8) :=
  match unencodable? t with
  | some fault => .error fault
  | none => .ok (t.chars.flatMap String.utf8EncodeChar)

end Utf8

end Playback
