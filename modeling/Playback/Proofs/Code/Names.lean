import Playback.Proofs.Code.Words
import Playback.Proofs.Number.Words

/-!
# The names of code

A name at the beginning of an expression has to be bound. It is bound by an import, a block, an
assignment or a parameter in front of it.

* `Lexeme.occurrences`: what the names among the lexemes of a line do. `Text.occurrences`: the same
  for a line, which may be an import.
* `Text.freeNamesOf`: the names that lines use without a line or a parameter in front that binds
  them. `Text.freeNames`: those of a program.
* `Expression.occurrences`: the names of an expression, in order. `Expression.reads_lexemes`: they
  are those of its lexemes.
* `Statement.occurrences_line_expression` and the like: what the names on the lines of statements
  do.
-/

namespace Playback

/-! ## Names on a line -/

/-- The words of the language that are no names. -/
def keywords : List Text :=
  ["False", "None", "True", "and", "as", "assert", "async", "await", "break", "class", "continue",
    "def", "del", "elif", "else", "except", "finally", "for", "from", "global", "if", "import",
    "in", "is", "lambda", "nonlocal", "not", "or", "pass", "raise", "return", "try", "while",
    "with", "yield"]

/-- Is the word a name, and neither a keyword nor a part of a number? -/
def Text.isIdentifier (word : Text) : Bool := !word.beginsWithDigit && !keywords.contains word

/-- What a name does where it stands. -/
inductive Occurrence where
  /-- It begins an expression. -/
  | use (name : Text)
  /-- It is bound for the lines behind. -/
  | binding (name : Text)
  /-- It is bound for what is behind it on its line. -/
  | parameter (name : Text)
  deriving DecidableEq

namespace Lexeme

/-- What a word does, given the lexemes in front of it and behind it. A member of what is in front
of it and the name of an argument do nothing. -/
def occurrence? (before? behind? : Option Lexeme) (word : Text) : Option Occurrence :=
  if !word.isIdentifier || before? == some (.mark '.') then none
  else if before? = some (.word "as") then some (.binding word)
  else if before? = some (.word "lambda") then some (.parameter word)
  else if behind? = some (.mark '=') then
    if before?.isNone then some (.binding word) else none
  else some (.use word)

/-- What the names among lexemes do, given the lexeme in front of them. -/
def occurrences (before? : Option Lexeme) : List Lexeme → List Occurrence
  | [] => []
  | .word t :: rest =>
    (occurrence? before? rest.head? t).toList ++ occurrences (some (.word t)) rest
  | lexeme :: rest => occurrences (some lexeme) rest

/-- The names that an import binds: the words behind the one for it. -/
def imported (lexemes : List Lexeme) : List Occurrence :=
  ((lexemes.dropWhile (· != .word "import")).tail.filterMap word?).map .binding

end Lexeme

/-- What the names on a line do. -/
def Text.occurrences (line : Text) : List Occurrence :=
  if line.lexemes.head? = some (.word "from") then Lexeme.imported line.lexemes
  else Lexeme.occurrences none line.lexemes

/-! ## Names that are not bound -/

namespace Occurrence

/-- The name that is bound for the lines behind. -/
def binding? : Occurrence → Option Text
  | .binding name => some name
  | _ => none

/-- The names that a line binds. -/
def bindings (occurrences : List Occurrence) : List Text := occurrences.filterMap binding?

/-- The names that a line uses without a parameter in front that binds them. -/
def freeNames : List Occurrence → List Text
  | [] => []
  | .use name :: rest => name :: freeNames rest
  | .binding _ :: rest => freeNames rest
  | .parameter name :: rest => (freeNames rest).filter (· ≠ name)

/-- A line that only uses names binds none, and leaves all of them free. -/
theorem freeNames_map_use (names : List Text) : freeNames (names.map .use) = names := by
  induction names with
  | nil => rfl
  | cons name names ih => rw [List.map_cons, freeNames, ih]

theorem bindings_map_use (names : List Text) : bindings (names.map .use) = [] :=
  List.filterMap_eq_nil_iff.2 (List.forall_mem_map.2 fun _ _ => rfl)

end Occurrence

namespace Text

/-- The names that lines bind. -/
def bindingsOf (lines : List Text) : List Text :=
  lines.flatMap fun line => Occurrence.bindings line.occurrences

/-- The names that lines use, and that neither a line in front nor a parameter binds. -/
def freeNamesOf : List Text → List Text
  | [] => []
  | line :: lines => Occurrence.freeNames line.occurrences ++
      (freeNamesOf lines).filter (· ∉ Occurrence.bindings line.occurrences)

/-- The names that a program uses, and that nothing in front binds. -/
def freeNames (program : Text) : List Text := freeNamesOf (program.splitOn (.char '\n'))

variable {n : Text} {line : Text} {front back lines : List Text}

@[simp] theorem mem_freeNamesOf_cons : n ∈ freeNamesOf (line :: lines) ↔
    n ∈ Occurrence.freeNames line.occurrences ∨
      n ∈ freeNamesOf lines ∧ n ∉ Occurrence.bindings line.occurrences := by
  simp [freeNamesOf]

/-- What lines leave free, and what the lines behind do that those do not bind. -/
theorem mem_freeNamesOf_append : n ∈ freeNamesOf (front ++ back) ↔
    n ∈ freeNamesOf front ∨ n ∈ freeNamesOf back ∧ n ∉ bindingsOf front := by
  induction front with
  | nil => simp [freeNamesOf, bindingsOf]
  | cons line front ih =>
    have hbindings : bindingsOf (line :: front) =
        Occurrence.bindings line.occurrences ++ bindingsOf front := List.flatMap_cons
    rw [List.cons_append, mem_freeNamesOf_cons, mem_freeNamesOf_cons, ih, hbindings,
      List.mem_append]
    tauto

theorem bindingsOf_append : bindingsOf (front ++ back) = bindingsOf front ++ bindingsOf back :=
  List.flatMap_append

/-- Lines inside blocks bind and use the same names. -/
theorem occurrences_indented (depth : Nat) (line : Text) :
    (indented (Statement.indentationOf depth) line).occurrences = line.occurrences := by
  rw [occurrences, occurrences, lexemes_indented]

section Map

variable {f : Text → Text} (h : ∀ line, (f line).occurrences = line.occurrences)
include h

theorem freeNamesOf_map (lines : List Text) : freeNamesOf (lines.map f) = freeNamesOf lines := by
  induction lines with
  | nil => rfl
  | cons line lines ih => rw [List.map_cons, freeNamesOf, freeNamesOf, h, ih]

theorem bindingsOf_map (lines : List Text) : bindingsOf (lines.map f) = bindingsOf lines := by
  simp only [bindingsOf, List.flatMap_map, h]

end Map

end Text

/-! ## Parts of a line -/

namespace Lexeme

variable {xs ys : List Lexeme} {os os' : List Occurrence} {before? : Option Lexeme} {word : Text}

/-- An expression may stand behind the lexeme, if there is one. -/
def Precedes (before? : Option Lexeme) : Prop :=
  before? ≠ some (.mark '.') ∧ before? ≠ some (.word "as") ∧ before? ≠ some (.word "lambda")

instance (before? : Option Lexeme) : Decidable (Precedes before?) :=
  inferInstanceAs (Decidable (_ ∧ _ ∧ _))

/-- The lexemes end an expression in front of them, and no name in them depends on it. -/
def Closes (rest : List Lexeme) : Prop :=
  rest.head? ≠ some (.mark '=') ∧ ∀ before?, occurrences before? rest = occurrences none rest

theorem closes_nil : Closes [] := ⟨nofun, fun _ => rfl⟩

theorem closes_mark {p : CodePoint} (hp : p ≠ .char '=') (rest : List Lexeme) :
    Closes (.mark p :: rest) := by
  refine ⟨?_, fun _ => rfl⟩
  rintro ⟨⟩
  exact hp rfl

theorem occurrences_keyword (h : word.isIdentifier = false) (before? : Option Lexeme)
    (rest : List Lexeme) :
    occurrences before? (.word word :: rest) = occurrences (some (.word word)) rest := by
  rw [occurrences, occurrence?, if_pos (by simp [h])]
  rfl

theorem closes_keyword (h : word.isIdentifier = false) (rest : List Lexeme) :
    Closes (.word word :: rest) :=
  ⟨nofun, fun before? => by rw [occurrences_keyword h, occurrences_keyword h]⟩

/-- Wherever an expression may stand, the lexemes have these occurrences, and do not matter for
those behind them. -/
def Reads (xs : List Lexeme) (os : List Occurrence) : Prop :=
  ∀ before?, Precedes before? → ∀ rest, Closes rest →
    occurrences before? (xs ++ rest) = os ++ occurrences none rest

/-- The same at every place but the beginning of a line. -/
def ReadsInside (xs : List Lexeme) (os : List Occurrence) : Prop :=
  ∀ before, Precedes (some before) → ∀ rest, Closes rest →
    occurrences (some before) (xs ++ rest) = os ++ occurrences none rest

theorem Reads.inside (h : Reads xs os) : ReadsInside xs os := fun before => h (some before)

/-- A name that begins an expression is used. -/
theorem reads_name (h : word.isIdentifier) : Reads [.word word] [.use word] := by
  intro before? hb rest hr
  obtain ⟨hpoint, has, hlambda⟩ := hb
  rw [List.singleton_append, occurrences, occurrence?, if_neg (by simp [h, hpoint]), if_neg has,
    if_neg hlambda, if_neg hr.1, hr.2]
  rfl

/-- Lexemes without names. -/
theorem reads_nil (h : ∀ word, .word word ∈ xs → word.isIdentifier = false) : Reads xs [] := by
  intro before? hb rest hr
  clear hb
  induction xs generalizing before? with
  | nil => exact hr.2 before?
  | cons lexeme xs ih =>
    have hxs : ∀ word, .word word ∈ xs → word.isIdentifier = false :=
      fun word hw => h word (List.mem_cons_of_mem _ hw)
    cases lexeme with
    | word word =>
      rw [List.cons_append, occurrences_keyword (h word List.mem_cons_self)]
      exact ih hxs _
    | literal => exact ih hxs _
    | mark p => exact ih hxs _

/-- A member of an expression. -/
theorem Reads.member (h : Reads xs os) (word : Text) :
    Reads (xs ++ [.mark (.char '.'), .word word]) os := by
  intro before? hb rest hr
  have hpoint : occurrences (some (.mark (.char '.'))) (.word word :: rest) =
      occurrences none rest := by
    rw [occurrences, occurrence?, if_pos (by simp), hr.2]
    rfl
  rw [List.append_assoc]
  exact (h before? hb _ (closes_mark (by decide) _)).trans (congrArg (os ++ ·) hpoint)

/-- The argument of a name. -/
theorem Reads.keyword (h : Reads xs os) (word : Text) :
    ReadsInside (.word word :: .mark (.char '=') :: xs) os := by
  intro before hb rest hr
  obtain ⟨hpoint, has, hlambda⟩ := hb
  have hnone : occurrence? (some before) (some (.mark (.char '='))) word = none := by
    rw [occurrence?, if_neg has, if_neg hlambda]
    exact ite_self _
  show (occurrence? (some before) (some (.mark (.char '='))) word).toList ++
    occurrences (some (.mark (.char '='))) (xs ++ rest) = _
  rw [hnone, h _ (by decide) rest hr]
  rfl

/-- A literal and a colon in front. -/
theorem Reads.entry (h : Reads xs os) : ReadsInside (.literal :: .mark (.char ':') :: xs) os := by
  intro before hb rest hr
  exact h (some (.mark (.char ':'))) (by decide) rest hr

/-- Parts with commas between them, in front of what ends them. -/
theorem readsInside_intercalate {parts : List (List Lexeme)} {os : List (List Occurrence)}
    (h : List.Forall₂ ReadsInside parts os) :
    ReadsInside (List.intercalate [.mark (.char ',')] parts) os.flatten := by
  intro before hb rest hr
  induction h generalizing before with
  | nil => exact hr.2 _
  | @cons part own parts os hpart hparts ih =>
    cases hparts with
    | nil =>
      rw [List.intercalate_singleton, List.flatten_cons, List.flatten_nil, List.append_nil]
      exact hpart before hb rest hr
    | @cons next nextOwn later more hnext hlater =>
      rw [List.intercalate_cons_cons, List.append_assoc, List.append_assoc, List.flatten_cons,
        List.append_assoc, List.singleton_append, hpart before hb _ (closes_mark (by decide) _)]
      exact congrArg (own ++ ·) (ih (.mark (.char ',')) (by decide))

/-- Parts in brackets. -/
theorem readsInside_bracketed {o c : CodePoint} (ho : Precedes (some (.mark o)))
    (hc : c ≠ .char '=') {parts : List (List Lexeme)} {os : List (List Occurrence)}
    (h : List.Forall₂ ReadsInside parts os) (before? : Option Lexeme) {rest : List Lexeme}
    (hr : Closes rest) :
    occurrences before? (.mark o :: (List.intercalate [.mark (.char ',')] parts ++ [.mark c]) ++
      rest) = os.flatten ++ occurrences none rest := by
  show occurrences (some (.mark o)) (_ ++ [.mark c] ++ rest) = _
  rw [List.append_assoc]
  exact (readsInside_intercalate h _ ho _ (closes_mark hc _)).trans
    (congrArg (os.flatten ++ ·) (hr.2 _))

end Lexeme

/-! ## The names of expressions -/

/-- The name that a number is written as, if it is not finite. -/
def Number.name? : Number → Option Text
  | .float .nan => some "nan"
  | .float (.infinite _) => some "inf"
  | _ => none

/-- What the text of a number does: a number that is not finite is the use of a name. -/
def Number.occurrences (n : Number) : List Occurrence := n.name?.toList.map .use

theorem Number.name?_eq_none_iff {n : Number} : n.name? = none ↔ n.isFinite := by
  rcases n with value | (_ | _ | _) <;> simp [name?, isFinite, Binary64.isFinite]

/-- The name of an occurrence. -/
def Occurrence.name : Occurrence → Text
  | .use name | .binding name | .parameter name => name

namespace Expression

open Lexeme

mutual

/-- What the names of an expression do, in order. -/
def occurrences : Expression → List Occurrence
  | .name identifier => [.use identifier]
  | .text _ | .bool _ => []
  | .number value => value.occurrences
  | .list items => (occurrencesOfItems items).flatten
  | .object entries => (occurrencesOfEntries entries).flatten
  | .member target _ => target.occurrences
  | .call callee arguments keywords =>
    callee.occurrences ++ (occurrencesOfItems arguments ++ occurrencesOfEntries keywords).flatten
  | .callback parameter body => .parameter parameter :: body.occurrences

/-- What the names of the items of a list do. -/
def occurrencesOfItems : List Expression → List (List Occurrence)
  | [] => []
  | item :: items => item.occurrences :: occurrencesOfItems items

/-- What the names of the values do that entries or arguments have. -/
def occurrencesOfEntries : List (Text × Expression) → List (List Occurrence)
  | [] => []
  | (_, value) :: entries => value.occurrences :: occurrencesOfEntries entries

end

theorem occurrencesOfItems_eq (items : List Expression) :
    occurrencesOfItems items = items.map occurrences := by
  induction items with
  | nil => rfl
  | cons item items ih => rw [occurrencesOfItems, ih, List.map_cons]

theorem occurrencesOfEntries_eq (entries : List (Text × Expression)) :
    occurrencesOfEntries entries = entries.map fun entry => entry.2.occurrences := by
  induction entries with
  | nil => rfl
  | cons entry entries ih => rw [occurrencesOfEntries, ih, List.map_cons]

theorem reads_number (n : Number) : Reads n.shown.lexemes n.occurrences := by
  cases hname : n.name? with
  | none =>
    rw [Number.occurrences, hname]
    refine reads_nil fun word hword => ?_
    have hdigit := Text.beginsWithDigit_of_mem_lexemes n.isNumeric_shown
      (Number.numbersOnly_shown (Number.name?_eq_none_iff.1 hname)) hword
    rw [Text.isIdentifier, hdigit]
    rfl
  | some name =>
    have hinf : Reads [.word "inf"] [.use "inf"] := reads_name (by decide)
    rcases n with value | (_ | negative | _)
    · cases hname
    · have hnan : Text.lexemes "nan" = [.word "nan"] := by decide +kernel
      show Reads (Text.lexemes "nan") _
      rw [hnan]
      exact reads_name (by decide)
    · cases negative with
      | false =>
        have hshown : Text.lexemes "inf" = [.word "inf"] := by decide +kernel
        show Reads (Text.lexemes "inf") _
        rw [hshown]
        exact hinf
      | true =>
        have hshown : Text.lexemes "-inf" = [.mark (.char '-'), .word "inf"] := by decide +kernel
        show Reads (Text.lexemes "-inf") _
        rw [hshown]
        intro before? hb rest hr
        exact hinf (some (.mark (.char '-'))) (by decide) rest hr
    · cases hname

/-- The names of an expression are names. -/
def HasIdentifiers (e : Expression) : Prop := ∀ o ∈ e.occurrences, o.name.isIdentifier

mutual

/-- The names among the lexemes of an expression are those of the expression. -/
theorem reads_lexemes : (e : Expression) → e.HasIdentifiers → Reads e.lexemes e.occurrences
  | .name _, h => reads_name (h _ List.mem_cons_self)
  | .text _, _ => reads_nil (by simp [lexemes])
  | .bool value, _ => reads_nil (by cases value <;> simp [lexemes] <;> decide)
  | .number value, _ => reads_number value
  | .list items, h => fun before? _ rest hr =>
    readsInside_bracketed (by decide) (by decide)
      (reads_lexemesOfItems items (List.forall_mem_flatten.1 h)) before? hr
  | .object entries, h => fun before? _ rest hr =>
    readsInside_bracketed (by decide) (by decide)
      (reads_lexemesOfEntries entries (List.forall_mem_flatten.1 h)) before? hr
  | .member target identifier, h => (reads_lexemes target h).member identifier
  | .call callee arguments keywords, h => by
    obtain ⟨hcallee, hparts⟩ := List.forall_mem_append.1 h
    rw [List.forall_mem_flatten, List.forall_mem_append] at hparts
    have hreads := List.rel_append (reads_lexemesOfItems arguments hparts.1)
      (reads_lexemesOfKeywords keywords hparts.2)
    intro before? hb rest hr
    rw [lexemes, List.append_assoc, occurrences, List.append_assoc]
    refine (reads_lexemes callee hcallee before? hb _ (closes_mark (by decide) _)).trans ?_
    exact congrArg (callee.occurrences ++ ·)
      (readsInside_bracketed (o := .char '(') (c := .char ')') (by decide) (by decide) hreads none
        hr)
  | .callback parameter body, h => by
    obtain ⟨hparameter, hbody⟩ := List.forall_mem_cons.1 h
    intro before? hb rest hr
    have hlambda : Text.isIdentifier "lambda" = false := by decide
    have hname : Text.isIdentifier parameter := hparameter
    show Lexeme.occurrences before? (.word "lambda" :: .word parameter :: .mark (.char ':') ::
      (body.lexemes ++ rest)) = _
    rw [occurrences_keyword hlambda, Lexeme.occurrences, occurrence?,
      if_neg (by rw [hname]; decide), if_neg (by decide), if_pos rfl]
    exact congrArg (.parameter parameter :: ·)
      (reads_lexemes body hbody (some (.mark (.char ':'))) (by decide) rest hr)

theorem reads_lexemesOfItems : (items : List Expression) →
    (∀ os ∈ occurrencesOfItems items, ∀ o ∈ os, o.name.isIdentifier) →
    List.Forall₂ ReadsInside (lexemesOfItems items) (occurrencesOfItems items)
  | [], _ => .nil
  | item :: items, h => by
    obtain ⟨hitem, hitems⟩ := List.forall_mem_cons.1 h
    exact .cons (reads_lexemes item hitem).inside (reads_lexemesOfItems items hitems)

theorem reads_lexemesOfEntries : (entries : List (Text × Expression)) →
    (∀ os ∈ occurrencesOfEntries entries, ∀ o ∈ os, o.name.isIdentifier) →
    List.Forall₂ ReadsInside (lexemesOfEntries entries) (occurrencesOfEntries entries)
  | [], _ => .nil
  | (_, value) :: entries, h => by
    obtain ⟨hvalue, hentries⟩ := List.forall_mem_cons.1 h
    exact .cons (reads_lexemes value hvalue).entry (reads_lexemesOfEntries entries hentries)

theorem reads_lexemesOfKeywords : (keywords : List (Text × Expression)) →
    (∀ os ∈ occurrencesOfEntries keywords, ∀ o ∈ os, o.name.isIdentifier) →
    List.Forall₂ ReadsInside (lexemesOfKeywords keywords) (occurrencesOfEntries keywords)
  | [], _ => .nil
  | (keyword, value) :: keywords, h => by
    obtain ⟨hvalue, hkeywords⟩ := List.forall_mem_cons.1 h
    exact .cons ((reads_lexemes value hvalue).keyword keyword)
      (reads_lexemesOfKeywords keywords hkeywords)

end

end Expression

/-! ## The names of lines -/

namespace Statement

open Lexeme

theorem occurrences_line_comment (text : Text) : (comment text).line.occurrences = [] := by
  rw [Text.occurrences, lexemes_line_comment, if_neg (by decide)]
  rfl

section Occurrences

variable {e : Expression} {os : List Occurrence} {name : Text}

theorem occurrences_line_expression (hw : ∀ word ∈ e.words, word.IsWord)
    (hfrom : ("from" : Text) ∉ e.words) (h : e.occurrences = os)
    (hos : ∀ o ∈ os, o.name.isIdentifier) : (expression e).line.occurrences = os := by
  subst h
  rw [Text.occurrences, lexemes_line_expression (e.hasWholeNames_of_words hw), if_neg]
  · have hread := e.reads_lexemes hos none (by decide) [] closes_nil
    rwa [List.append_nil, Lexeme.occurrences, List.append_nil] at hread
  · intro hhead
    rw [← Expression.words_lexemes] at hfrom
    exact hfrom (List.mem_filterMap.2 ⟨_, List.mem_of_head? hhead, rfl⟩)

theorem occurrences_line_assignment (hn : name.IsWord ∧ name.isIdentifier)
    (hw : ∀ word ∈ e.words, word.IsWord) (h : e.occurrences = os)
    (hos : ∀ o ∈ os, o.name.isIdentifier) :
    (assignment name e).line.occurrences = .binding name :: os := by
  subst h
  obtain ⟨hword, hidentifier⟩ := hn
  have hfrom : name ≠ "from" := by
    rintro rfl
    exact absurd hidentifier (by decide)
  have hread := e.reads_lexemes hos (some (.mark (.char '='))) (by decide) [] closes_nil
  rw [List.append_nil, Lexeme.occurrences, List.append_nil] at hread
  rw [Text.occurrences, lexemes_line_assignment hword (e.hasWholeNames_of_words hw),
    if_neg (by simpa using hfrom), Lexeme.occurrences, occurrence?,
    if_neg (by simp [hidentifier]), if_neg nofun, if_neg nofun, List.head?_cons, if_pos rfl]
  exact congrArg (.binding name :: ·) hread

theorem occurrences_line_scope (hw : ∀ word ∈ e.words, word.IsWord) (h : e.occurrences = os)
    (hos : ∀ o ∈ os, o.name.isIdentifier) (hn : name.IsWord ∧ name.isIdentifier) :
    (scope e name).line.occurrences = os ++ [.binding name] := by
  subst h
  obtain ⟨hword, hidentifier⟩ := hn
  have hwith : Text.isIdentifier "with" = false := by decide
  have has : Text.isIdentifier "as" = false := by decide
  have hread := e.reads_lexemes hos (some (.word "with")) (by decide) _
    (closes_keyword has [.word name, .mark (.char ':')])
  rw [Text.occurrences, lexemes_line_scope (e.hasWholeNames_of_words hw) hword,
    List.head?_cons, if_neg (by decide), occurrences_keyword hwith, hread, occurrences_keyword has,
    Lexeme.occurrences, occurrence?, if_neg (by rw [hidentifier]; decide), if_pos rfl]
  rfl

end Occurrences

theorem occurrences_line_pass : pass.line.occurrences = [] := by decide +kernel

end Statement

end Playback
