import Playback.Proofs.Code.Piece
import Playback.Proofs.Locator.Forms

/-!
# The literals of recorded texts

A recorded text is written as one literal. It has two readers, with escapes of their own: the
language of the generated program, and the reader of quoted arguments in selectors.

* `Literal.evaluate?`: the value of a text that is a literal as a whole.
* `Text.IsLiteralOf`: a text that is a literal of another one for both readers.
* `Quoted.isLiteralOf_encode`: what is written for a text is a literal of this text, and of no other
  one.
-/

namespace Playback

/-- The value of a text that is a literal as a whole. -/
def Literal.evaluate? (text : Text) : Option Text :=
  match Piece.read? text with
  | some [.literal content] => value? content
  | _ => none

/-- The text is a literal of `t` for both of its readers. -/
structure Text.IsLiteralOf (text t : Text) : Prop where
  /-- It stands between quotes, and a quote between them is behind the backslash that escapes it.
  What is between them stands for `t` in a selector. -/
  quoted : ∃ content, text = .char '"' :: (content ++ [.char '"']) ∧ Selector.AreItems content ∧
    Selector.argument content = t
  noControl : ∀ p ∈ text, 0x20 ≤ p.toNat
  evaluated : Literal.evaluate? text = some t

namespace Quoted

/-- A literal is read as one piece, whose value is the text. -/
theorem evaluate?_encode (t : Text) : Literal.evaluate? (encode t) = some t := by
  rw [Literal.evaluate?, Piece.read?_encode]
  exact Literal.value?_escaped t

/-- Between the quotes of a literal there are items that stand for the text. -/
theorem exists_items_encode (t : Text) : ∃ content,
    encode t = .char '"' :: (content ++ [.char '"']) ∧ Selector.AreItems content ∧
      Selector.argument content = t :=
  ⟨t.flatMap escape, rfl, Selector.Quotation.areItems_escaped t,
    Selector.Quotation.value_ofLiteral t⟩

/-- What is written for a text is a literal of this text and of no other one, so that texts with the
same literal are the same. -/
theorem isLiteralOf_encode (s t : Text) :
    ((encode s).IsLiteralOf t ↔ s = t) ∧ (encode s = encode t ↔ s = t) := by
  have hself (s : Text) : (encode s).IsLiteralOf s :=
    ⟨exists_items_encode s, (Text.isCode_encode s).noControl, evaluate?_encode s⟩
  have hunique {s t : Text} (h : (encode s).IsLiteralOf t) : s = t :=
    Option.some.inj ((evaluate?_encode s).symm.trans h.evaluated)
  refine ⟨⟨hunique, ?_⟩, ⟨fun h => ?_, congrArg encode⟩⟩
  · rintro rfl
    exact hself s
  · have ht := hself t
    rw [← h] at ht
    exact hunique ht

/-- Quotes, backslashes and text that looks like an escape. -/
example : encode "\\\"\\u0022\x7f" = "\"\\\\\\\"\\\\u0022\x7f\"" := by decide

end Quoted

end Playback
