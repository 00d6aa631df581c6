import Playback.Proofs.Code.Delimited
import Playback.Proofs.Code.Lexemes

/-!
# Numbers on a line of code

A number that is an argument, or a part of one, stands between a mark that begins a value and a mark
that ends it, with no quotes around it.

* `Text.HoldsNumbers line numbers`: such numbers are on the line, in this order.
* `Text.HoldsNumbers.append`: the numbers of lines of which one stands behind the other.
* `Text.IsValueOf value numbers`: the value of an argument is a number itself or has numbers in it.
  `Text.holdsNumbers_keywordsBehind`, `Text.holdsNumbers_keywords`: the numbers of arguments with
  keywords.
-/

namespace Playback

/-- What stands in front of a value. -/
def valueMarks : Text := "(= "

/-- What stands behind a value. -/
def valueEnds : Text := ",)\x7d"

/-- The numbers stand among the pieces as whole values, in this order; between them there is
anything. -/
inductive Piece.HoldNumbers : List Piece → List Number → Prop
  | nil : HoldNumbers [] []
  | skip (piece : Piece) {rest : List Piece} {numbers : List Number}
    (h : HoldNumbers rest numbers) : HoldNumbers (piece :: rest) numbers
  | value {mark last : CodePoint} (n : Number) {rest : List Piece} {numbers : List Number}
    (hm : mark ∈ valueMarks) (hl : last ∈ valueEnds)
    (h : HoldNumbers (.code last :: rest) numbers) :
    HoldNumbers (.code mark :: (n.shown.map .code ++ .code last :: rest)) (n :: numbers)

namespace Piece

theorem holdNumbers_nil (pieces : List Piece) : HoldNumbers pieces [] := by
  induction pieces with
  | nil => exact .nil
  | cons piece pieces ih => exact .skip piece ih

theorem HoldNumbers.append {front back : List Piece} {ms ns : List Number}
    (hf : HoldNumbers front ms) (hb : HoldNumbers back ns) :
    HoldNumbers (front ++ back) (ms ++ ns) := by
  induction hf with
  | nil => exact hb
  | skip piece _ ih => exact .skip piece ih
  | value n hm hl _ ih =>
    rw [List.cons_append, List.append_assoc]
    exact .value n hm hl ih

end Piece

namespace Text

/-- The numbers stand on the line as whole values outside its literals, in this order. -/
def HoldsNumbers (line : Text) (numbers : List Number) : Prop :=
  ∃ pieces, Piece.read? line = some pieces ∧ Piece.HoldNumbers pieces numbers

/-- The value of an argument: a number, or code with these numbers. -/
def IsValueOf (value : Text) (numbers : List Number) : Prop :=
  value.HoldsNumbers numbers ∨ ∃ n : Number, value = n.shown ∧ numbers = [n]

variable {s t value : Text} {ms ns : List Number}

theorem HoldsNumbers.append (hs : s.HoldsNumbers ms) (ht : t.HoldsNumbers ns) :
    (s ++ t).HoldsNumbers (ms ++ ns) := by
  obtain ⟨front, hfront, hms⟩ := hs
  obtain ⟨back, hback, hns⟩ := ht
  exact ⟨front ++ back, by rw [Piece.read?_append hfront, hback]; rfl, hms.append hns⟩

theorem IsCode.holdsNumbers {values : List Text} (h : IsCode t values) : t.HoldsNumbers [] := by
  obtain ⟨pieces, hread, -⟩ := h.pieces
  exact ⟨pieces, hread, Piece.holdNumbers_nil pieces⟩

theorem holdsNumbers_of_notMem (h : .char '"' ∉ t) : t.HoldsNumbers [] :=
  ⟨_, Piece.read?_of_not_mem h, Piece.holdNumbers_nil _⟩

/-- What begins a line without being a literal changes nothing. -/
theorem HoldsNumbers.behind (ht : t.HoldsNumbers ns) (h : .char '"' ∉ s) :
    (s ++ t).HoldsNumbers ns :=
  (holdsNumbers_of_notMem h).append ht

/-- Lines without numbers, one below the other. -/
theorem holdsNumbers_joined {lines : List Text} (h : ∀ line ∈ lines, line.HoldsNumbers []) :
    (joined "\n" lines).HoldsNumbers [] := by
  have hfeed : .char '"' ∉ ("\n" : Text) := by decide
  cases lines with
  | nil => exact holdsNumbers_of_notMem List.not_mem_nil
  | cons line lines =>
    obtain ⟨hline, hlines⟩ := List.forall_mem_cons.1 h
    rw [joined_cons]
    refine hline.append ?_
    clear h hline
    induction lines with
    | nil => exact holdsNumbers_of_notMem List.not_mem_nil
    | cons next lines ih =>
      obtain ⟨hnext, hlines⟩ := List.forall_mem_cons.1 hlines
      exact (hnext.behind hfeed).append (ih hlines)

/-- A value in front of the text ends there. -/
def EndsValue (t : Text) : Prop := ∃ last ∈ t.head?, last ∈ valueEnds

theorem endsValue_cons {last : CodePoint} (h : last ∈ valueEnds) (t : Text) :
    EndsValue (last :: t) :=
  ⟨last, rfl, h⟩

theorem EndsArgument.endsValue (h : t.EndsArgument) : t.EndsValue := by
  obtain ⟨last, hlast, rfl | rfl⟩ := h
  · exact ⟨_, hlast, by decide⟩
  · exact ⟨_, hlast, by decide⟩

/-- A value between its marks. -/
theorem HoldsNumbers.value_append {mark : CodePoint} (hv : value.IsValueOf ms)
    (hm : mark ∈ valueMarks) (hl : t.EndsValue) (ht : t.HoldsNumbers ns) :
    HoldsNumbers (mark :: (value ++ t)) (ms ++ ns) := by
  have hquote : ∀ p ∈ valueMarks ++ valueEnds, p ≠ .char '"' := by decide
  have hnot : mark ≠ .char '"' := hquote _ (List.mem_append_left _ hm)
  rcases hv with hv | ⟨n, rfl, rfl⟩
  · have hmark : .char '"' ∉ ([mark] : Text) := by simpa using hnot.symm
    exact (hv.append ht).behind hmark
  · obtain ⟨last, hlast, hl⟩ := hl
    obtain ⟨t, rfl⟩ := List.head?_eq_some_iff.1 hlast
    have hnot' : last ≠ .char '"' := hquote _ (List.mem_append_right _ hl)
    obtain ⟨pieces, hread, hns⟩ := ht
    have hnumber : Piece.read? n.shown = some (n.shown.map .code) :=
      Piece.read?_of_not_mem fun h => absurd (n.isNumeric_shown _ h) (by decide)
    rw [Piece.read?, if_neg hnot'] at hread
    obtain ⟨rest, hrest, rfl⟩ := Option.map_eq_some_iff.1 hread
    refine ⟨_, ?_, .value n hm hl hns⟩
    rw [Piece.read?, if_neg hnot, Piece.read?_append hnumber, Piece.read?, if_neg hnot', hrest]
    rfl

/-! ## Arguments with keywords -/

/-- The arguments have keywords without quotes, and values with these numbers, in order. -/
inductive HaveNumbers : List (Text × Text) → List Number → Prop
  | nil : HaveNumbers [] []
  | cons {keyword value : Text} {keywords : List (Text × Text)} {ms ns : List Number}
    (hk : .char '"' ∉ keyword) (hv : value.IsValueOf ms) (h : HaveNumbers keywords ns) :
    HaveNumbers ((keyword, value) :: keywords) (ms ++ ns)

variable {keyword : Text} {keywords keywords' : List (Text × Text)} {numbers : List Number}

theorem HaveNumbers.append (h : HaveNumbers keywords ms) (h' : HaveNumbers keywords' ns) :
    HaveNumbers (keywords ++ keywords') (ms ++ ns) := by
  induction h with
  | nil => exact h'
  | cons hk hv _ ih =>
    rw [List.cons_append, List.append_assoc]
    exact .cons hk hv ih

/-- An argument without numbers, which may be missing. -/
theorem haveNumbers_optional (hk : .char '"' ∉ keyword) {value : Option Text}
    (hv : ∀ v ∈ value, v.HoldsNumbers []) : HaveNumbers (optionalArgument keyword value) [] := by
  cases value with
  | none => exact .nil
  | some v => exact .cons hk (.inl (hv v rfl)) .nil

theorem HoldsNumbers.keyword_append (hk : .char '"' ∉ keyword) (hv : value.IsValueOf ms)
    (hl : t.EndsValue) (ht : t.HoldsNumbers ns) :
    HoldsNumbers (keyword ++ .char '=' :: (value ++ t)) (ms ++ ns) :=
  (value_append hv (by decide) hl ht).behind hk

theorem holdsNumbers_keywordsBehind (h : HaveNumbers keywords numbers)
    (ht : HoldsNumbers (.char ')' :: t) ns) :
    HoldsNumbers (keywordsBehind keywords ++ .char ')' :: t) (numbers ++ ns) := by
  induction h with
  | nil => exact ht
  | cons hk hv _ ih =>
    have hcomma : .char '"' ∉ (", " : Text) := by decide
    rw [keywordsBehind_cons, List.append_assoc]
    exact (HoldsNumbers.keyword_append hk hv
      (endsArgument_keywordsBehind _ _).endsValue ih).behind hcomma

/-- Arguments with keywords and no other argument in front of them. -/
theorem holdsNumbers_keywords (h : HaveNumbers keywords numbers)
    (ht : HoldsNumbers (.char ')' :: t) ns) :
    HoldsNumbers (joined ", " (keywords.map fun (keyword, value) => keyword ++ "=" ++ value) ++
      .char ')' :: t) (numbers ++ ns) := by
  cases h with
  | nil => exact ht
  | @cons keyword value keywords _ _ hk hv hrest =>
    have hjoined : joined ", " (((keyword, value) :: keywords).map
        fun (keyword, value) => keyword ++ "=" ++ value) ++ .char ')' :: t =
          keyword ++ .char '=' :: (value ++ (keywordsBehind keywords ++ .char ')' :: t)) := by
      rw [List.map_cons, joined_cons, List.flatMap_map]
      simp [keywordsBehind, Text.ofString]
    rw [hjoined, List.append_assoc]
    exact HoldsNumbers.keyword_append hk hv (endsArgument_keywordsBehind _ _).endsValue
      (holdsNumbers_keywordsBehind hrest ht)

end Text

end Playback
