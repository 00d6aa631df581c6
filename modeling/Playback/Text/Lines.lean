import Playback.Text.Basic

/-!
# Lines of a text

* `CodePoint.endsLine`: the ten characters that end a line. A carriage return and the line feed
  after it end one line together.
* `Text.lines`: the lines of a text without what ends them; text that ends with a line end has no
  empty line after it.
* `Text.ofLines`: lines in one text, a line feed behind each.
* `Text.withLineFeeds`: every carriage return, alone or with a line feed after it, as one line feed.
-/

namespace Playback

/-- Does the code point end a line? -/
def CodePoint.endsLine (p : CodePoint) : Bool :=
  let n := p.toNat
  (10 ≤ n && n ≤ 13) || (0x1C ≤ n && n ≤ 0x1E) || n == 0x85 || n == 0x2028 || n == 0x2029

namespace Text

/-- A code point in front of the first line. -/
def pushFront (p : CodePoint) : List Text → List Text
  | [] => [[p]]
  | line :: rest => (p :: line) :: rest

/-- The lines of a text, without what ends them. -/
def lines : Text → List Text
  | [] => []
  | .char '\r' :: .char '\n' :: rest => [] :: lines rest
  | p :: rest => if p.endsLine then [] :: lines rest else pushFront p (lines rest)

/-- Lines in one text, a line feed behind each. -/
def ofLines (lines : List Text) : Text := lines.flatMap fun line => line ++ "\n"

/-- Every carriage return, alone or with the line feed after it, as one line feed. -/
def withLineFeeds : Text → Text
  | [] => []
  | .char '\r' :: .char '\n' :: rest => .char '\n' :: withLineFeeds rest
  | .char '\r' :: rest => .char '\n' :: withLineFeeds rest
  | p :: rest => p :: withLineFeeds rest

end Text

end Playback
