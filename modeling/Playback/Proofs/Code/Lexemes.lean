import Playback.Proofs.Code.Delimited
import Playback.Proofs.Code.Expression
import Playback.Proofs.Text.Lines

/-!
# The lexemes of code

* `Piece.lexemesBehind`: the lexemes among the pieces of a line, up to a comment. `Text.lexemes`:
  the lexemes of a line.
* `Text.HasLexemes`: a part of a line has these lexemes, whatever stands behind it and does not go
  on with the last word.
* `Expression.lexemes`: the lexemes of an expression. `Expression.hasLexemes_print`: they are those
  of its text.
* `Statement.lexemes_line_expression` and the like: the lexemes of the lines of statements.
  `Text.lexemes_indented`: those of a line inside blocks.
-/

namespace Playback

/-- What a line of code is made of, besides spaces. -/
inductive Lexeme where
  /-- A name, a keyword, or a part of a number. -/
  | word (t : Text)
  /-- A literal, whatever it holds. -/
  | literal
  | mark (p : CodePoint)
  deriving DecidableEq

/-- The word that a lexeme is. -/
def Lexeme.word? : Lexeme → Option Text
  | .word t => some t
  | _ => none

/-- A whole word: a name, or a part of a number. -/
def Text.IsWord (t : Text) : Prop := t.IsName ∧ t ≠ []

instance (t : Text) : Decidable t.IsWord := inferInstanceAs (Decidable (t.IsName ∧ t ≠ []))

namespace Piece

/-- The word that was read up to here, if there is one. -/
def ended (word : Text) : List Text := if word.isEmpty then [] else [word]

/-- The lexemes of the pieces of a line, the first of which go on with `word`. A comment ends the
reading. -/
def lexemesBehind (word : Text) : List Piece → List Lexeme
  | [] => (ended word).map .word
  | .literal _ :: rest => (ended word).map .word ++ .literal :: lexemesBehind [] rest
  | .code p :: rest =>
    if p.isNamePart then lexemesBehind (word ++ [p]) rest
    else if p = .char '#' then (ended word).map .word
    else if p = .char ' ' then (ended word).map .word ++ lexemesBehind [] rest
    else (ended word).map .word ++ .mark p :: lexemesBehind [] rest

end Piece

/-- The lexemes of a line of code, up to a comment. A line with a literal that is not closed has
none. -/
def Text.lexemes (line : Text) : List Lexeme :=
  ((Piece.read? line).map (Piece.lexemesBehind [])).getD []

namespace Piece

/-- A word in front of the pieces ends there. -/
def EndsWord (pieces : List Piece) : Prop :=
  ∀ p, pieces.head? = some (.code p) → p.isNamePart = false

theorem lexemesBehind_of_endsWord {rest : List Piece} (h : EndsWord rest) (word : Text) :
    lexemesBehind word rest = (ended word).map .word ++ lexemesBehind [] rest := by
  cases rest with
  | nil => simp [lexemesBehind, ended]
  | cons piece rest =>
    cases piece with
    | literal content => rfl
    | code p =>
      have hp : ¬ p.isNamePart = true := by simp [h p rfl]
      simp only [lexemesBehind, if_neg hp]
      split
      · exact (List.append_nil _).symm
      · split <;> rfl

/-- A word goes on with a name. -/
theorem lexemesBehind_name {name : Text} (h : name.IsName) (word : Text) (rest : List Piece) :
    lexemesBehind word (name.map .code ++ rest) = lexemesBehind (word ++ name) rest := by
  induction name generalizing word with
  | nil => simp
  | cons p name ih =>
    obtain ⟨hp, hname⟩ := List.forall_mem_cons.1 h
    rw [List.map_cons, List.cons_append, lexemesBehind, if_pos hp, ih hname, List.append_assoc]
    rfl

/-- Characters that begin neither literals nor comments. -/
theorem lexemesBehind_append {t : Text} (h : .char '#' ∉ t) (word : Text) {rest : List Piece}
    (hrest : EndsWord rest) :
    lexemesBehind word (t.map .code ++ rest) =
      lexemesBehind word (t.map .code) ++ lexemesBehind [] rest := by
  induction t generalizing word with
  | nil => exact lexemesBehind_of_endsWord hrest word
  | cons p t ih =>
    obtain ⟨hp, ht⟩ := List.ne_and_not_mem_of_not_mem_cons h
    rw [List.map_cons, List.cons_append, lexemesBehind, lexemesBehind, if_neg hp.symm,
      if_neg hp.symm, ih ht, ih ht]
    split
    · rfl
    · split <;> simp

theorem read?_of_not_mem {t : Text} (h : .char '"' ∉ t) : read? t = some (t.map .code) := by
  induction t with
  | nil => rfl
  | cons p t ih =>
    obtain ⟨hp, ht⟩ := List.ne_and_not_mem_of_not_mem_cons h
    rw [read?, if_neg hp.symm, ih ht]
    rfl

/-- From inside a literal on, the first piece is the literal. -/
theorem exists_literal_of_readLiteral? {content : Text} {escaped : Bool} {t : Text}
    {pieces : List Piece} (h : readLiteral? content escaped t = some pieces) :
    ∃ whole rest, pieces = .literal whole :: rest := by
  induction t generalizing content escaped with
  | nil => cases h
  | cons p t ih =>
    rw [readLiteral?] at h
    split at h
    · exact ih h
    · split at h
      · obtain ⟨rest, -, rfl⟩ := Option.map_eq_some_iff.1 h
        exact ⟨_, _, rfl⟩
      · exact ih h

/-- The first piece of a text is its first character, or a literal. -/
theorem endsWord_of_read? {t : Text} {pieces : List Piece} (h : read? t = some pieces)
    (ht : t.EndsName) : EndsWord pieces := by
  cases t with
  | nil =>
    cases h
    intro q hq
    cases hq
  | cons p t =>
    rw [read?] at h
    split at h
    · obtain ⟨whole, rest, rfl⟩ := exists_literal_of_readLiteral? h
      intro q hq
      cases hq
    · obtain ⟨later, -, rfl⟩ := Option.map_eq_some_iff.1 h
      intro q hq
      cases hq
      exact ht p rfl

theorem EndsWord.append {front back : List Piece} (hf : EndsWord front) (hb : EndsWord back) :
    EndsWord (front ++ back) := by
  cases front with
  | nil => exact hb
  | cons piece front => exact hf

end Piece

/-! ## The lexemes of parts of a line -/

/-- The text has these lexemes on every line that it is a part of, if what is behind it does not go
on with the last word. -/
def Text.HasLexemes (t : Text) (lexemes : List Lexeme) : Prop :=
  ∃ pieces, Piece.read? t = some pieces ∧ ∀ rest, Piece.EndsWord rest →
    Piece.lexemesBehind [] (pieces ++ rest) = lexemes ++ Piece.lexemesBehind [] rest

/-- The character is a lexeme of its own: it neither goes on with a word nor begins a literal or a
comment, and is no space. -/
def CodePoint.isMark (p : CodePoint) : Bool :=
  !p.isNamePart && p != .char '"' && p != .char '#' && p != .char ' '

namespace Text

variable {s t : Text} {xs ys : List Lexeme}

theorem HasLexemes.lexemes_eq (h : t.HasLexemes xs) : t.lexemes = xs := by
  obtain ⟨pieces, hpieces, hlexemes⟩ := h
  have hall := hlexemes [] nofun
  rw [List.append_nil] at hall
  rw [lexemes, hpieces, Option.map_some, Option.getD_some, hall]
  exact List.append_nil xs

theorem hasLexemes_nil : HasLexemes [] [] := ⟨[], rfl, fun _ _ => rfl⟩

theorem HasLexemes.append (hs : s.HasLexemes xs) (ht : t.HasLexemes ys) (h : t.EndsName) :
    HasLexemes (s ++ t) (xs ++ ys) := by
  obtain ⟨front, hfront, hxs⟩ := hs
  obtain ⟨back, hback, hys⟩ := ht
  refine ⟨front ++ back, ?_, fun rest hrest => ?_⟩
  · rw [Piece.read?_append hfront, hback]
    rfl
  · rw [List.append_assoc, hxs _ ((Piece.endsWord_of_read? hback h).append hrest), hys rest hrest,
      List.append_assoc]

/-- A mark in front. -/
theorem HasLexemes.mark {p : CodePoint} (hp : p.isMark) (ht : t.HasLexemes xs) :
    HasLexemes (p :: t) (.mark p :: xs) := by
  obtain ⟨pieces, hpieces, hxs⟩ := ht
  simp only [CodePoint.isMark, Bool.and_eq_true, Bool.not_eq_true', bne_iff_ne] at hp
  obtain ⟨⟨⟨hname, hquote⟩, hcomment⟩, hspace⟩ := hp
  refine ⟨.code p :: pieces, ?_, fun rest hrest => ?_⟩
  · rw [Piece.read?, if_neg hquote, hpieces]
    rfl
  · rw [List.cons_append, Piece.lexemesBehind, if_neg (by simp [hname]), if_neg hcomment,
      if_neg hspace, hxs rest hrest]
    rfl

/-- A space in front is no lexeme. -/
theorem HasLexemes.space (ht : t.HasLexemes xs) : HasLexemes (.char ' ' :: t) xs := by
  obtain ⟨pieces, hpieces, hxs⟩ := ht
  refine ⟨.code (.char ' ') :: pieces, ?_, fun rest hrest => ?_⟩
  · rw [Piece.read?, if_neg (by decide), hpieces]
    rfl
  · rw [List.cons_append, Piece.lexemesBehind, if_neg (by decide), if_neg (by decide),
      if_pos rfl, hxs rest hrest]
    rfl

theorem hasLexemes_word {word : Text} (h : word.IsWord) : HasLexemes word [.word word] := by
  obtain ⟨hname, hne⟩ := h
  refine ⟨word.map .code, Piece.read?_of_not_mem fun hquote => ?_, fun rest hrest => ?_⟩
  · exact absurd (hname _ hquote) (by decide)
  · rw [Piece.lexemesBehind_name hname, Piece.lexemesBehind_of_endsWord hrest, List.nil_append,
      Piece.ended, List.isEmpty_eq_false_iff.2 hne]
    rfl

theorem hasLexemes_encode (t : Text) : HasLexemes (Quoted.encode t) [.literal] := by
  refine ⟨[.literal (t.flatMap Quoted.escape)], ?_, fun _ _ => rfl⟩
  rw [Quoted.encode, Piece.read?, if_pos rfl, Piece.readLiteral?_escaped]
  rfl

theorem hasLexemes_numeric (h : t.IsNumeric) : HasLexemes t t.lexemes := by
  have hpieces : Piece.read? t = some (t.map .code) :=
    Piece.read?_of_not_mem fun hquote => absurd (h _ hquote) (by decide)
  refine ⟨t.map .code, hpieces, fun rest hrest => ?_⟩
  rw [Piece.lexemesBehind_append (fun hcomment => absurd (h _ hcomment) (by decide)) [] hrest,
    lexemes, hpieces]
  rfl

/-- Parts with commas between them. -/
theorem hasLexemes_joined {parts : List Text} {lexemes : List (List Lexeme)}
    (h : List.Forall₂ HasLexemes parts lexemes) :
    HasLexemes (joined ", " parts) (List.intercalate [.mark (.char ',')] lexemes) := by
  induction h with
  | nil => exact hasLexemes_nil
  | @cons part xs parts lexemes hpart hparts ih =>
    cases hparts with
    | nil => simpa [joined, List.intercalate] using hpart
    | @cons next ys later more hnext hlater =>
      have hrest : HasLexemes (", " ++ joined ", " (next :: later))
          (.mark (.char ',') :: List.intercalate [.mark (.char ',')] (ys :: more)) :=
        ih.space.mark (by decide)
      have := hpart.append hrest (endsName_cons (by decide) _)
      simpa [joined, List.intercalate_cons_cons] using this

end Text

/-! ## The lexemes of expressions -/

namespace Expression

mutual

/-- The lexemes of an expression, in order. -/
def lexemes : Expression → List Lexeme
  | .name identifier => [.word identifier]
  | .text _ => [.literal]
  | .bool value => [.word (if value then "True" else "False")]
  | .number value => value.shown.lexemes
  | .list items =>
    .mark '[' :: (List.intercalate [.mark ','] (lexemesOfItems items) ++ [.mark ']'])
  | .object entries =>
    .mark '\x7b' :: (List.intercalate [.mark ','] (lexemesOfEntries entries) ++ [.mark '\x7d'])
  | .member target identifier => target.lexemes ++ [.mark '.', .word identifier]
  | .call callee arguments keywords =>
    callee.lexemes ++ .mark '(' :: (List.intercalate [.mark ',']
      (lexemesOfItems arguments ++ lexemesOfKeywords keywords) ++ [.mark ')'])
  | .callback parameter body =>
    .word "lambda" :: .word parameter :: .mark ':' :: body.lexemes

/-- The lexemes of the items of a list, or of the arguments without a name. -/
def lexemesOfItems : List Expression → List (List Lexeme)
  | [] => []
  | item :: items => item.lexemes :: lexemesOfItems items

/-- The lexemes of the entries of an object. -/
def lexemesOfEntries : List (Text × Expression) → List (List Lexeme)
  | [] => []
  | (_, value) :: entries => (.literal :: .mark ':' :: value.lexemes) :: lexemesOfEntries entries

/-- The lexemes of the arguments that have a name. -/
def lexemesOfKeywords : List (Text × Expression) → List (List Lexeme)
  | [] => []
  | (keyword, value) :: keywords =>
    (.word keyword :: .mark '=' :: value.lexemes) :: lexemesOfKeywords keywords

end

mutual

/-- All names, members and keywords of an expression are whole words. -/
def HasWholeNames : Expression → Prop
  | .name identifier => identifier.IsWord
  | .text _ | .bool _ | .number _ => True
  | .list items => ItemsHaveWholeNames items
  | .object entries => EntriesHaveWholeNames entries
  | .member target identifier => target.HasWholeNames ∧ identifier.IsWord
  | .call callee arguments keywords =>
    callee.HasWholeNames ∧ ItemsHaveWholeNames arguments ∧ KeywordsHaveWholeNames keywords
  | .callback parameter body => parameter.IsWord ∧ body.HasWholeNames

/-- All names of the items of a list are whole words. -/
def ItemsHaveWholeNames : List Expression → Prop
  | [] => True
  | item :: items => item.HasWholeNames ∧ ItemsHaveWholeNames items

/-- All names in the entries of an object are whole words. -/
def EntriesHaveWholeNames : List (Text × Expression) → Prop
  | [] => True
  | (_, value) :: entries => value.HasWholeNames ∧ EntriesHaveWholeNames entries

/-- All names of arguments that have a name are whole words. -/
def KeywordsHaveWholeNames : List (Text × Expression) → Prop
  | [] => True
  | (keyword, value) :: keywords =>
    (keyword.IsWord ∧ value.HasWholeNames) ∧ KeywordsHaveWholeNames keywords

end

/-- Parts in brackets. -/
theorem hasLexemes_bracketed {o c : CodePoint} (ho : o.isMark) (hc : c.isMark) {parts : List Text}
    {lexemes : List (List Lexeme)} (h : List.Forall₂ Text.HasLexemes parts lexemes) :
    Text.HasLexemes (o :: (Text.joined ", " parts ++ [c]))
      (.mark o :: (List.intercalate [.mark (.char ',')] lexemes ++ [.mark c])) := by
  have hn : c.isNamePart = false := by
    simp only [CodePoint.isMark, Bool.and_eq_true, Bool.not_eq_true'] at hc
    exact hc.1.1.1
  have hclose : Text.HasLexemes [c] [.mark c] := Text.hasLexemes_nil.mark hc
  exact ((Text.hasLexemes_joined h).append hclose (Text.endsName_cons hn [])).mark ho

mutual

/-- The lexemes of the text of an expression are those of the expression, if its names are whole
words. -/
theorem hasLexemes_print : (e : Expression) → e.HasWholeNames → Text.HasLexemes e.print e.lexemes
  | .name _, h => Text.hasLexemes_word h
  | .text value, _ => Text.hasLexemes_encode value
  | .bool value, _ => Text.hasLexemes_word (by cases value <;> decide)
  | .number value, _ => Text.hasLexemes_numeric value.isNumeric_shown
  | .list items, h =>
    hasLexemes_bracketed (o := .char '[') rfl rfl (hasLexemes_printItems items h)
  | .object entries, h =>
    hasLexemes_bracketed (o := .char '\x7b') rfl rfl (hasLexemes_printEntries entries h)
  | .member target identifier, h => by
    have hidentifier := (Text.hasLexemes_word h.2).mark (p := .char '.') rfl
    rw [Expression.print, List.append_assoc, lexemes]
    exact (hasLexemes_print target h.1).append hidentifier (Text.endsName_cons rfl _)
  | .call callee arguments keywords, h => by
    have hparts := List.rel_append (hasLexemes_printItems arguments h.2.1)
      (hasLexemes_printKeywords keywords h.2.2)
    have hcall := hasLexemes_bracketed (o := .char '(') (c := .char ')') rfl rfl hparts
    rw [Expression.print, List.append_assoc, List.append_assoc, lexemes]
    exact (hasLexemes_print callee h.1).append hcall (Text.endsName_cons rfl _)
  | .callback parameter body, h => by
    have hbody : Text.HasLexemes (": " ++ body.print) (.mark ':' :: body.lexemes) :=
      (hasLexemes_print body h.2).space.mark rfl
    have hparameter : Text.HasLexemes (" " ++ (parameter ++ (": " ++ body.print)))
        (.word parameter :: .mark ':' :: body.lexemes) :=
      ((Text.hasLexemes_word h.1).append hbody (Text.endsName_cons rfl _)).space
    have hlambda : Text.HasLexemes "lambda" [.word "lambda"] := Text.hasLexemes_word (by decide)
    rw [Expression.print, List.append_assoc, List.append_assoc]
    exact hlambda.append hparameter (Text.endsName_cons rfl _)

theorem hasLexemes_printItems : (items : List Expression) → ItemsHaveWholeNames items →
    List.Forall₂ Text.HasLexemes (printItems items) (lexemesOfItems items)
  | [], _ => .nil
  | item :: items, h => .cons (hasLexemes_print item h.1) (hasLexemes_printItems items h.2)

theorem hasLexemes_printEntries : (entries : List (Text × Expression)) →
    EntriesHaveWholeNames entries →
    List.Forall₂ Text.HasLexemes (printEntries entries) (lexemesOfEntries entries)
  | [], _ => .nil
  | (key, value) :: entries, h => by
    have hvalue : Text.HasLexemes (": " ++ value.print) (.mark ':' :: value.lexemes) :=
      (hasLexemes_print value h.1).space.mark rfl
    have hentry := (Text.hasLexemes_encode key).append hvalue (Text.endsName_cons rfl _)
    rw [← List.append_assoc] at hentry
    exact .cons hentry (hasLexemes_printEntries entries h.2)

theorem hasLexemes_printKeywords : (keywords : List (Text × Expression)) →
    KeywordsHaveWholeNames keywords →
    List.Forall₂ Text.HasLexemes (printKeywords keywords) (lexemesOfKeywords keywords)
  | [], _ => .nil
  | (keyword, value) :: keywords, h => by
    have hvalue : Text.HasLexemes ("=" ++ value.print) (.mark '=' :: value.lexemes) :=
      (hasLexemes_print value h.1.2).mark rfl
    have hkeyword := (Text.hasLexemes_word h.1.1).append hvalue (Text.endsName_cons rfl _)
    rw [← List.append_assoc] at hkeyword
    exact .cons hkeyword (hasLexemes_printKeywords keywords h.2)

end

end Expression

/-! ## The lexemes of lines -/

namespace Text

/-- Space in front of a line is no lexeme. -/
theorem lexemes_space_cons (line : Text) : lexemes (.char ' ' :: line) = line.lexemes := by
  rw [lexemes, lexemes, Piece.read?, if_neg (by decide), Option.map_map]
  cases Piece.read? line <;> rfl

theorem lexemes_spaces_append (columns : Nat) (line : Text) :
    lexemes (List.replicate columns (.char ' ') ++ line) = line.lexemes := by
  induction columns with
  | zero => rfl
  | succ columns ih => rw [List.replicate_succ, List.cons_append, lexemes_space_cons, ih]

theorem lexemes_indented (depth : Nat) (line : Text) :
    (indented (Statement.indentationOf depth) line).lexemes = line.lexemes := by
  unfold indented
  split
  · rfl
  · rw [Statement.indentationOf_eq, lexemes_spaces_append]

end Text

namespace Statement

theorem lexemes_line_comment (text : Text) : (comment text).line.lexemes = [] := by
  show Text.lexemes (.char '#' :: .char ' ' :: text) = []
  rw [Text.lexemes, Piece.read?, if_neg (by decide)]
  cases Piece.read? (.char ' ' :: text) <;> rfl

theorem lexemes_line_expression {e : Expression} (h : e.HasWholeNames) :
    (expression e).line.lexemes = e.lexemes :=
  (e.hasLexemes_print h).lexemes_eq

theorem lexemes_line_assignment {name : Text} {value : Expression} (hn : name.IsWord)
    (h : value.HasWholeNames) :
    (assignment name value).line.lexemes = .word name :: .mark '=' :: value.lexemes := by
  have hvalue : Text.HasLexemes (" = " ++ value.print) (.mark '=' :: value.lexemes) :=
    ((value.hasLexemes_print h).space.mark rfl).space
  have hline := (Text.hasLexemes_word hn).append hvalue (Text.endsName_cons rfl _)
  rw [← List.append_assoc] at hline
  exact hline.lexemes_eq

theorem lexemes_line_scope {resource : Expression} {name : Text} (h : resource.HasWholeNames)
    (hn : name.IsWord) : (scope resource name).line.lexemes =
      .word "with" :: (resource.lexemes ++ [.word "as", .word name, .mark ':']) := by
  have has : Text.HasLexemes "as" [.word "as"] := Text.hasLexemes_word (by decide)
  have hwith : Text.HasLexemes "with" [.word "with"] := Text.hasLexemes_word (by decide)
  have hcolon : Text.HasLexemes ":" [.mark ':'] := Text.hasLexemes_nil.mark rfl
  have hname : Text.HasLexemes (" " ++ (name ++ ":")) [.word name, .mark ':'] :=
    ((Text.hasLexemes_word hn).append hcolon (Text.endsName_cons rfl _)).space
  have hback : Text.HasLexemes (" " ++ ("as" ++ (" " ++ (name ++ ":"))))
      [.word "as", .word name, .mark ':'] := (has.append hname (Text.endsName_cons rfl _)).space
  have hresource := (resource.hasLexemes_print h).append hback (Text.endsName_cons rfl _)
  have hline : Text.HasLexemes ("with" ++ (" " ++ (resource.print ++
      (" " ++ ("as" ++ (" " ++ (name ++ ":"))))))) _ :=
    hwith.append hresource.space (Text.endsName_cons rfl _)
  rw [line, List.append_assoc, List.append_assoc, List.append_assoc]
  exact hline.lexemes_eq

end Statement

end Playback
