import Playback.Text.Quoted
import Playback.Text.Printable

/-!
# Texts shown for a reader

In messages a text stands between single quotes, or between double quotes if it holds a single quote
and no double one. The quote, a backslash and what is not printable are escaped.
-/

namespace Playback

namespace Text

/-- The last `count` hexadecimal digits of a number, in lower case. -/
def hexDigits (count n : Nat) : Text :=
  (List.range count).reverse.map fun place => Quoted.hexDigit (n / Nat.pow 16 place % 16)

/-- How a code point is shown between the quotes `quote`. -/
def shownPoint (quote : Char) (p : CodePoint) : Text :=
  if p = .char quote then [.char '\\', p]
  else if p = .char '\\' then "\\\\"
  else if p = .char '\n' then "\\n"
  else if p = .char '\r' then "\\r"
  else if p = .char '\t' then "\\t"
  else if p.isPrintable then [p]
  else if p.toNat < 0x100 then "\\x" ++ hexDigits 2 p.toNat
  else if p.toNat < 0x10000 then "\\u" ++ hexDigits 4 p.toNat
  else "\\U" ++ hexDigits 8 p.toNat

/-- The quote that a shown text stands between. -/
def shownQuote (t : Text) : Char :=
  if t.contains (.char '\'') && !t.contains (.char '"') then '"' else '\''

/-- The text between quotes, with what cannot stand there escaped. -/
def shown (t : Text) : Text :=
  let quote := t.shownQuote
  .char quote :: (t.flatMap (shownPoint quote) ++ [.char quote])

end Text

end Playback
