import Playback.Text.Shown

/-!
# Surrogates that stand alone

A text of JSON may hold a surrogate without its other half. Such a text is not Unicode text and has
no bytes.

* `CodePoint.isSurrogate`: is a code point a surrogate? `Text.isUnicode`: is a text free of them?
* `Text.surrogateEscaped`: the text with its surrogates written out, which is how diagnostics show
  them, and how JSON may have them. `Text.toString`: the string of this text.
-/

namespace Playback

/-- Is the code point a surrogate that stands alone? -/
def CodePoint.isSurrogate : CodePoint → Bool
  | .char _ => false
  | .surrogate _ => true

namespace Text

/-- The text has no surrogate that stands alone. -/
def isUnicode (t : Text) : Bool := t.all (!·.isSurrogate)

/-- A surrogate as a backslash, the letter `u` and its four digits; all else as it is. -/
def surrogateEscape (p : CodePoint) : Text :=
  if p.isSurrogate then "\\u" ++ hexDigits 4 p.toNat else [p]

/-- The text with every surrogate that stands alone written out. -/
def surrogateEscaped (t : Text) : Text := t.flatMap surrogateEscape

/-- The text as a string, with every surrogate that stands alone written out. -/
protected def toString (t : Text) : String := String.ofList t.surrogateEscaped.chars

end Text

end Playback
