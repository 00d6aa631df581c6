import Playback.Text.Basic

/-!
# Blank text

Two classes of white space that differ in the four information separators.

* `CodePoint.isBlank`: white space together with U+001C to U+001F; a line of blanks holds nothing.
* `CodePoint.isWhiteSpace`: the Unicode property White_Space, which a number in a string may have
  around it.
* `Text.isBlank`: nothing but blanks.
-/

namespace Playback

/-- The Unicode property White_Space. -/
def CodePoint.isWhiteSpace (p : CodePoint) : Bool :=
  let n := p.toNat
  (9 ≤ n && n ≤ 13) || n == 0x20 || n == 0x85 || n == 0xA0 || n == 0x1680 ||
    (0x2000 ≤ n && n ≤ 0x200A) || n == 0x2028 || n == 0x2029 || n == 0x202F || n == 0x205F ||
    n == 0x3000

/-- White space, or one of the separators U+001C to U+001F. -/
def CodePoint.isBlank (p : CodePoint) : Bool :=
  p.isWhiteSpace || (0x1C ≤ p.toNat && p.toNat ≤ 0x1F)

/-- Does the text hold nothing but blanks? -/
def Text.isBlank (t : Text) : Bool := t.all CodePoint.isBlank

end Playback
