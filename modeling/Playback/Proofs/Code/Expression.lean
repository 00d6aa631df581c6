import Playback.Program.Statement
import Playback.Proofs.Code.Number

/-!
# Expressions as code

* `Expression.literals`: the texts that an expression has as literals, in the order of its text.
* `Expression.HasPlainNames`: its names, members and keywords are of plain characters.
* `Expression.isCode_print`: the text of an expression with plain names is code, and its literals
  have the values that the expression has, whatever these are.
* `Expression.isCode_printArguments`: the same of what stands between the brackets of a call.
-/

namespace Playback

namespace Expression

mutual

/-- The texts that are literals of an expression, in order. -/
def literals : Expression → List Text
  | .name _ | .bool _ | .number _ => []
  | .text value => [value]
  | .list items => literalsOfItems items
  | .object entries => literalsOfEntries entries
  | .member target _ => target.literals
  | .call callee arguments keywords =>
    callee.literals ++ (literalsOfItems arguments ++ literalsOfKeywords keywords)
  | .callback _ body => body.literals

/-- The literals of the items of a list. -/
def literalsOfItems : List Expression → List Text
  | [] => []
  | item :: items => item.literals ++ literalsOfItems items

/-- The literals of the entries of an object. A key is a literal too. -/
def literalsOfEntries : List (Text × Expression) → List Text
  | [] => []
  | (key, value) :: entries => key :: value.literals ++ literalsOfEntries entries

/-- The literals of the arguments that have a name. -/
def literalsOfKeywords : List (Text × Expression) → List Text
  | [] => []
  | (_, value) :: keywords => value.literals ++ literalsOfKeywords keywords

end

mutual

/-- All names of an expression are of plain characters. -/
def HasPlainNames : Expression → Prop
  | .name identifier => Text.IsPlain identifier
  | .text _ | .bool _ | .number _ => True
  | .list items => ItemsHavePlainNames items
  | .object entries => EntriesHavePlainNames entries
  | .member target identifier => target.HasPlainNames ∧ Text.IsPlain identifier
  | .call callee arguments keywords =>
    callee.HasPlainNames ∧ ItemsHavePlainNames arguments ∧ KeywordsHavePlainNames keywords
  | .callback parameter body => Text.IsPlain parameter ∧ body.HasPlainNames

/-- All names of the items of a list are of plain characters. -/
def ItemsHavePlainNames : List Expression → Prop
  | [] => True
  | item :: items => item.HasPlainNames ∧ ItemsHavePlainNames items

/-- All names in the values of an object are of plain characters. -/
def EntriesHavePlainNames : List (Text × Expression) → Prop
  | [] => True
  | (_, value) :: entries => value.HasPlainNames ∧ EntriesHavePlainNames entries

/-- All names of arguments and in their values are of plain characters. -/
def KeywordsHavePlainNames : List (Text × Expression) → Prop
  | [] => True
  | (keyword, value) :: keywords =>
    Text.IsPlain keyword ∧ value.HasPlainNames ∧ KeywordsHavePlainNames keywords

end

section Lists

variable (items : List Expression) (entries keywords : List (Text × Expression))

theorem literalsOfItems_eq : literalsOfItems items = (items.map literals).flatten := by
  induction items with
  | nil => rfl
  | cons item items ih => rw [literalsOfItems, ih, List.map_cons, List.flatten_cons]

theorem literalsOfEntries_eq :
    literalsOfEntries entries = (entries.map fun entry => entry.1 :: entry.2.literals).flatten := by
  induction entries with
  | nil => rfl
  | cons entry entries ih => rw [literalsOfEntries, ih, List.map_cons, List.flatten_cons]

theorem literalsOfKeywords_eq :
    literalsOfKeywords keywords = (keywords.map fun keyword => keyword.2.literals).flatten := by
  induction keywords with
  | nil => rfl
  | cons keyword keywords ih => rw [literalsOfKeywords, ih, List.map_cons, List.flatten_cons]

theorem itemsHavePlainNames_iff :
    ItemsHavePlainNames items ↔ ∀ item ∈ items, item.HasPlainNames := by
  induction items with
  | nil => simp [ItemsHavePlainNames]
  | cons item items ih => simp [ItemsHavePlainNames, ih]

theorem keywordsHavePlainNames_iff : KeywordsHavePlainNames keywords ↔
    ∀ keyword ∈ keywords, Text.IsPlain keyword.1 ∧ keyword.2.HasPlainNames := by
  induction keywords with
  | nil => simp [KeywordsHavePlainNames]
  | cons keyword keywords ih => simp [KeywordsHavePlainNames, ih, and_assoc]

end Lists

/-- The arguments of a call, those without a name first. -/
def printArguments (arguments : List Expression) (keywords : List (Text × Expression)) : Text :=
  Text.joined ", " (printItems arguments ++ printKeywords keywords)

private theorem isCode_printArguments_of {arguments : List Expression}
    {keywords : List (Text × Expression)}
    (ha : List.Forall₂ Text.IsCode (printItems arguments) (arguments.map literals))
    (hk : List.Forall₂ Text.IsCode (printKeywords keywords)
      (keywords.map fun keyword => keyword.2.literals)) :
    Text.IsCode (printArguments arguments keywords)
      (literalsOfItems arguments ++ literalsOfKeywords keywords) := by
  have := Text.isCode_joined (List.rel_append ha hk)
  rwa [List.flatten_append, ← literalsOfItems_eq, ← literalsOfKeywords_eq] at this

mutual

/-- The text of an expression with plain names is code, and its literals are those of the
expression. -/
theorem isCode_print : (e : Expression) → e.HasPlainNames → Text.IsCode e.print e.literals
  | .name _, h => Text.IsPlain.isCode h
  | .text value, _ => Text.isCode_encode value
  | .bool value, _ => Text.IsPlain.isCode (by cases value <;> decide)
  | .number value, _ => value.isPlain_shown.isCode
  | .list items, h => by
    rw [literals, literalsOfItems_eq]
    exact (Text.isCode_joined (isCode_printItems items h)).bracketed (o := .char '[') rfl
  | .object entries, h => by
    rw [literals, literalsOfEntries_eq]
    exact (Text.isCode_joined (isCode_printEntries entries h)).bracketed (o := .char '\x7b') rfl
  | .member target identifier, h => by
    have hid : Text.IsCode ("." ++ identifier : Text) [] := (h.2.cons (by decide)).isCode
    rw [Expression.print, List.append_assoc, literals, ← List.append_nil target.literals]
    exact (isCode_print target h.1).append hid
  | .call callee arguments keywords, h => by
    have hargs := isCode_printArguments_of (isCode_printItems arguments h.2.1)
      (isCode_printKeywords keywords h.2.2)
    rw [Expression.print, List.append_assoc, List.append_assoc, literals]
    exact (isCode_print callee h.1).append (hargs.bracketed (o := .char '(') rfl)
  | .callback parameter body, h => by
    have hlead : Text.IsCode ("lambda " ++ parameter ++ ": " : Text) [] :=
      ((Text.IsPlain.append (by decide) h.1).append (by decide)).isCode
    exact hlead.append (isCode_print body h.2)

theorem isCode_printItems : (items : List Expression) → ItemsHavePlainNames items →
    List.Forall₂ Text.IsCode (printItems items) (items.map literals)
  | [], _ => .nil
  | item :: items, h => .cons (isCode_print item h.1) (isCode_printItems items h.2)

theorem isCode_printEntries : (entries : List (Text × Expression)) → EntriesHavePlainNames entries →
    List.Forall₂ Text.IsCode (printEntries entries)
      (entries.map fun entry => entry.1 :: entry.2.literals)
  | [], _ => .nil
  | (key, value) :: entries, h => by
    have hcolon : Text.IsCode (": " : Text) [] := Text.IsPlain.isCode (by decide)
    have hentry := ((Text.isCode_encode key).append hcolon).append (isCode_print value h.1)
    exact .cons hentry (isCode_printEntries entries h.2)

theorem isCode_printKeywords : (keywords : List (Text × Expression)) →
    KeywordsHavePlainNames keywords → List.Forall₂ Text.IsCode (printKeywords keywords)
      (keywords.map fun keyword => keyword.2.literals)
  | [], _ => .nil
  | (keyword, value) :: keywords, h => by
    have hname : Text.IsCode (keyword ++ "=" : Text) [] := (h.1.append (by decide)).isCode
    exact .cons (hname.append (isCode_print value h.2.1)) (isCode_printKeywords keywords h.2.2)

end

theorem isCode_printArguments {arguments : List Expression} {keywords : List (Text × Expression)}
    (ha : ItemsHavePlainNames arguments) (hk : KeywordsHavePlainNames keywords) :
    Text.IsCode (printArguments arguments keywords)
      (literalsOfItems arguments ++ literalsOfKeywords keywords) :=
  isCode_printArguments_of (isCode_printItems arguments ha) (isCode_printKeywords keywords hk)

end Expression

end Playback
