import Playback.Proofs.Code.Lexemes

/-!
# The words of code

* `Piece.wordsBehind`: the words among the pieces of a line, up to a comment. `Text.words`: the
  words of a line. They are those of its lexemes that are words, `Text.words_eq`.
* `Expression.words`: the words of an expression, in order. `Expression.words_lexemes`: they are
  those of its lexemes.
* `Statement.words_line_expression` and the like: the words of the lines of statements.
  `Text.words_indented`: those of a line inside blocks.
-/

namespace Playback

namespace Piece

/-- The words of the pieces of a line, the first of which go on with `word`. A comment ends the
reading. -/
def wordsBehind (word : Text) : List Piece → List Text
  | [] => ended word
  | .literal _ :: rest => ended word ++ wordsBehind [] rest
  | .code p :: rest =>
    if p.isNamePart then wordsBehind (word ++ [p]) rest
    else if p = .char '#' then ended word
    else ended word ++ wordsBehind [] rest

end Piece

/-- The words of a line of code: what is made of the characters of names, outside literals and in
front of a comment. A line with a literal that is not closed has none. -/
def Text.words (line : Text) : List Text := ((Piece.read? line).map (Piece.wordsBehind [])).getD []

namespace Piece

/-- Words are the lexemes that are neither literals nor marks. -/
theorem filterMap_lexemesBehind (word : Text) (pieces : List Piece) :
    (lexemesBehind word pieces).filterMap Lexeme.word? = wordsBehind word pieces := by
  have hended (word : Text) :
      ((ended word).map Lexeme.word).filterMap Lexeme.word? = ended word := by
    unfold ended
    split <;> rfl
  induction pieces generalizing word with
  | nil => exact hended word
  | cons piece pieces ih =>
    cases piece with
    | literal content =>
      rw [lexemesBehind, wordsBehind, List.filterMap_append, hended]
      exact congrArg _ (ih [])
    | code p =>
      rw [lexemesBehind, wordsBehind]
      split
      · exact ih _
      · split
        · exact hended word
        · rw [← ih []]
          split
          · rw [List.filterMap_append, hended]
          · rw [List.filterMap_append, hended]
            rfl

/-- Words are whole ones, and their characters are those of the pieces. -/
theorem of_mem_wordsBehind {word : Text} (hword : word.IsName) {pieces : List Piece} {t : Text}
    (h : t ∈ wordsBehind word pieces) : t.IsWord ∧ ∀ p ∈ t, p ∈ word ∨ .code p ∈ pieces := by
  have hended {word : Text} (hword : word.IsName) {pieces : List Piece} (h : t ∈ ended word) :
      t.IsWord ∧ ∀ p ∈ t, p ∈ word ∨ .code p ∈ pieces := by
    unfold ended at h
    split at h
    · cases h
    · next hne =>
      cases List.mem_singleton.1 h
      exact ⟨⟨hword, by simpa using hne⟩, fun p hp => .inl hp⟩
  have hnil : Text.IsName [] := nofun
  induction pieces generalizing word with
  | nil => exact hended hword h
  | cons piece pieces ih =>
    have hlater (h : t ∈ wordsBehind [] pieces) :
        t.IsWord ∧ ∀ p ∈ t, p ∈ word ∨ .code p ∈ piece :: pieces := by
      obtain ⟨hwhole, hall⟩ := ih hnil h
      refine ⟨hwhole, fun p hp => .inr (List.mem_cons_of_mem _ ?_)⟩
      exact (hall p hp).resolve_left List.not_mem_nil
    cases piece with
    | literal content => exact (List.mem_append.1 h).elim (hended hword) hlater
    | code q =>
      rw [wordsBehind] at h
      split at h
      · next hq =>
        have hgoes : Text.IsName (word ++ [q]) :=
          List.forall_mem_append.2 ⟨hword, List.forall_mem_singleton.2 hq⟩
        obtain ⟨hwhole, hall⟩ := ih hgoes h
        refine ⟨hwhole, fun p hp => ?_⟩
        rcases hall p hp with hfront | hback
        · rcases List.mem_append.1 hfront with hfront | hsame
          · exact .inl hfront
          · cases List.mem_singleton.1 hsame
            exact .inr List.mem_cons_self
        · exact .inr (List.mem_cons_of_mem _ hback)
      · split at h
        · exact hended hword h
        · exact (List.mem_append.1 h).elim (hended hword) hlater

end Piece

namespace Text

variable {t : Text}

theorem words_eq (line : Text) : line.words = line.lexemes.filterMap Lexeme.word? := by
  unfold words lexemes
  cases Piece.read? line with
  | none => rfl
  | some pieces => exact (Piece.filterMap_lexemesBehind [] pieces).symm

/-- The words of a text without literals are whole ones of its characters. -/
theorem of_mem_words (h : .char '"' ∉ t) {word : Text} (hword : word ∈ t.words) :
    word.IsWord ∧ word ⊆ t := by
  rw [words, Piece.read?_of_not_mem h, Option.map_some, Option.getD_some] at hword
  have hnil : Text.IsName [] := nofun
  obtain ⟨hwhole, hall⟩ := Piece.of_mem_wordsBehind hnil hword
  refine ⟨hwhole, fun p hp => ?_⟩
  have hpiece := (hall p hp).resolve_left List.not_mem_nil
  rwa [List.mem_map_of_injective fun _ _ => Piece.code.inj] at hpiece

/-- Brackets are no words. -/
theorem filterMap_bracketed (o c : CodePoint) (lexemes : List Lexeme) :
    (.mark o :: (lexemes ++ [.mark c])).filterMap Lexeme.word? =
      lexemes.filterMap Lexeme.word? := by
  show (lexemes ++ [Lexeme.mark c]).filterMap Lexeme.word? = _
  rw [List.filterMap_append]
  exact List.append_nil _

/-- Commas between parts are no words. -/
theorem filterMap_intercalate (parts : List (List Lexeme)) :
    (List.intercalate [.mark (.char ',')] parts).filterMap Lexeme.word? =
      (parts.map (List.filterMap Lexeme.word?)).flatten := by
  induction parts with
  | nil => rfl
  | cons part parts ih =>
    cases parts with
    | nil => simp [List.intercalate]
    | cons next parts =>
      rw [List.intercalate_cons_cons, List.filterMap_append, List.filterMap_append, ih,
        List.map_cons, List.flatten_cons, List.append_assoc]
      rfl

end Text

/-! ## The words of expressions -/

namespace Expression

mutual

/-- The words of an expression, in order. -/
def words : Expression → List Text
  | .name identifier => [identifier]
  | .text _ => []
  | .bool value => [if value then "True" else "False"]
  | .number value => value.shown.words
  | .list items => wordsOfItems items
  | .object entries => wordsOfEntries entries
  | .member target identifier => target.words ++ [identifier]
  | .call callee arguments keywords =>
    callee.words ++ (wordsOfItems arguments ++ wordsOfKeywords keywords)
  | .callback parameter body => "lambda" :: parameter :: body.words

/-- The words of the items of a list. -/
def wordsOfItems : List Expression → List Text
  | [] => []
  | item :: items => item.words ++ wordsOfItems items

/-- The words of the entries of an object. A key is a literal. -/
def wordsOfEntries : List (Text × Expression) → List Text
  | [] => []
  | (_, value) :: entries => value.words ++ wordsOfEntries entries

/-- The words of the arguments that have a name. -/
def wordsOfKeywords : List (Text × Expression) → List Text
  | [] => []
  | (keyword, value) :: keywords => keyword :: value.words ++ wordsOfKeywords keywords

end

section Lists

variable (items : List Expression) (entries keywords : List (Text × Expression))

theorem wordsOfItems_eq : wordsOfItems items = (items.map words).flatten := by
  induction items with
  | nil => rfl
  | cons item items ih => rw [wordsOfItems, ih, List.map_cons, List.flatten_cons]

theorem wordsOfEntries_eq :
    wordsOfEntries entries = (entries.map fun entry => entry.2.words).flatten := by
  induction entries with
  | nil => rfl
  | cons entry entries ih => rw [wordsOfEntries, ih, List.map_cons, List.flatten_cons]

theorem wordsOfKeywords_eq : wordsOfKeywords keywords =
    (keywords.map fun keyword => keyword.1 :: keyword.2.words).flatten := by
  induction keywords with
  | nil => rfl
  | cons keyword keywords ih => rw [wordsOfKeywords, ih, List.map_cons, List.flatten_cons]

end Lists

open Lexeme (word?)

mutual

/-- The words of an expression are those of its lexemes. -/
theorem words_lexemes : (e : Expression) → e.lexemes.filterMap word? = e.words
  | .name _ | .text _ | .bool _ => rfl
  | .number value => (Text.words_eq value.shown).symm
  | .list items => by
    rw [lexemes, words, wordsOfItems_eq, ← words_lexemesOfItems items, Text.filterMap_bracketed,
      Text.filterMap_intercalate]
  | .object entries => by
    rw [lexemes, words, wordsOfEntries_eq, ← words_lexemesOfEntries entries,
      Text.filterMap_bracketed, Text.filterMap_intercalate]
  | .member target identifier => by
    rw [lexemes, words, List.filterMap_append, words_lexemes target]
    rfl
  | .call callee arguments keywords => by
    rw [lexemes, words, wordsOfItems_eq, wordsOfKeywords_eq, List.filterMap_append,
      words_lexemes callee, ← words_lexemesOfItems arguments, ← words_lexemesOfKeywords keywords,
      ← List.flatten_append, ← List.map_append, Text.filterMap_bracketed,
      Text.filterMap_intercalate]
  | .callback parameter body => by
    rw [lexemes, words, ← words_lexemes body]
    rfl

theorem words_lexemesOfItems : (items : List Expression) →
    (lexemesOfItems items).map (List.filterMap word?) = items.map words
  | [] => rfl
  | item :: items => by
    rw [lexemesOfItems, List.map_cons, List.map_cons, words_lexemes item,
      words_lexemesOfItems items]

theorem words_lexemesOfEntries : (entries : List (Text × Expression)) →
    (lexemesOfEntries entries).map (List.filterMap word?) = entries.map fun entry => entry.2.words
  | [] => rfl
  | (key, value) :: entries => by
    rw [lexemesOfEntries, List.map_cons, List.map_cons, ← words_lexemes value,
      words_lexemesOfEntries entries]
    rfl

theorem words_lexemesOfKeywords : (keywords : List (Text × Expression)) →
    (lexemesOfKeywords keywords).map (List.filterMap word?) =
      keywords.map fun keyword => keyword.1 :: keyword.2.words
  | [] => rfl
  | (keyword, value) :: keywords => by
    rw [lexemesOfKeywords, List.map_cons, List.map_cons, ← words_lexemes value,
      words_lexemesOfKeywords keywords]
    rfl

end

mutual

/-- Names are whole words if all words are. -/
theorem hasWholeNames_of_words : (e : Expression) → (∀ word ∈ e.words, word.IsWord) →
    e.HasWholeNames
  | .name _, h => h _ List.mem_cons_self
  | .text _, _ | .bool _, _ | .number _, _ => trivial
  | .list items, h => itemsHaveWholeNames_of_words items h
  | .object entries, h => entriesHaveWholeNames_of_words entries h
  | .member target _, h => by
    rw [words, List.forall_mem_append] at h
    exact ⟨hasWholeNames_of_words target h.1, h.2 _ List.mem_cons_self⟩
  | .call callee arguments keywords, h => by
    rw [words, List.forall_mem_append, List.forall_mem_append] at h
    exact ⟨hasWholeNames_of_words callee h.1, itemsHaveWholeNames_of_words arguments h.2.1,
      keywordsHaveWholeNames_of_words keywords h.2.2⟩
  | .callback _ body, h => by
    rw [words, List.forall_mem_cons, List.forall_mem_cons] at h
    exact ⟨h.2.1, hasWholeNames_of_words body h.2.2⟩

theorem itemsHaveWholeNames_of_words : (items : List Expression) →
    (∀ word ∈ wordsOfItems items, word.IsWord) → ItemsHaveWholeNames items
  | [], _ => trivial
  | item :: items, h => by
    rw [wordsOfItems, List.forall_mem_append] at h
    exact ⟨hasWholeNames_of_words item h.1, itemsHaveWholeNames_of_words items h.2⟩

theorem entriesHaveWholeNames_of_words : (entries : List (Text × Expression)) →
    (∀ word ∈ wordsOfEntries entries, word.IsWord) → EntriesHaveWholeNames entries
  | [], _ => trivial
  | (_, value) :: entries, h => by
    rw [wordsOfEntries, List.forall_mem_append] at h
    exact ⟨hasWholeNames_of_words value h.1, entriesHaveWholeNames_of_words entries h.2⟩

theorem keywordsHaveWholeNames_of_words : (keywords : List (Text × Expression)) →
    (∀ word ∈ wordsOfKeywords keywords, word.IsWord) → KeywordsHaveWholeNames keywords
  | [], _ => trivial
  | (_, value) :: keywords, h => by
    rw [wordsOfKeywords, List.cons_append, List.forall_mem_cons, List.forall_mem_append] at h
    exact ⟨⟨h.1, hasWholeNames_of_words value h.2.1⟩,
      keywordsHaveWholeNames_of_words keywords h.2.2⟩

end

end Expression

/-! ## The words of lines -/

namespace Text

/-- Space in front of a line has no words. -/
theorem words_space_cons (line : Text) : words (.char ' ' :: line) = line.words := by
  rw [words_eq, words_eq, lexemes_space_cons]

theorem words_indented (depth : Nat) (line : Text) :
    (indented (Statement.indentationOf depth) line).words = line.words := by
  rw [words_eq, words_eq, lexemes_indented]

end Text

namespace Statement

open Expression (words_lexemes)

theorem words_line_comment (text : Text) : (comment text).line.words = [] := by
  rw [Text.words_eq, lexemes_line_comment]
  rfl

theorem words_line_expression {e : Expression} (h : ∀ word ∈ e.words, word.IsWord) :
    (expression e).line.words = e.words := by
  rw [Text.words_eq, lexemes_line_expression (e.hasWholeNames_of_words h), words_lexemes]

theorem words_line_assignment {name : Text} {value : Expression} (hn : name.IsWord)
    (h : ∀ word ∈ value.words, word.IsWord) :
    (assignment name value).line.words = name :: value.words := by
  rw [Text.words_eq, lexemes_line_assignment hn (value.hasWholeNames_of_words h),
    ← words_lexemes value]
  rfl

theorem words_line_scope {resource : Expression} {name : Text}
    (h : ∀ word ∈ resource.words, word.IsWord) (hn : name.IsWord) :
    (scope resource name).line.words =
      ("with" : Text) :: (resource.words ++ [("as" : Text), name]) := by
  rw [Text.words_eq, lexemes_line_scope (resource.hasWholeNames_of_words h) hn,
    ← words_lexemes resource]
  show _ :: (resource.lexemes ++ _).filterMap Lexeme.word? = _
  rw [List.filterMap_append]
  rfl

end Statement

end Playback
