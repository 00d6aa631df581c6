import Playback.Json.Decode
import Playback.Proofs.Assoc
import Playback.Proofs.Json.Token

/-!
# Values that are read back

A value is written on one line, and what is written is read as the value.

* `Json.tokensOf`: the tokens of a value. `Json.written`: the value written in its tokens, with a
  gap behind commas and colons. `Json.written_eq_encode`: with a space this is how values are shown.
* `Json.IsWritable`: the value has whole numbers only, none of them too long, and no key twice.
* `Json.run_tokensOf`: the tokens of a value are read as the value.
* `Json.decode_written`: so is the written object.
-/

namespace Playback

namespace Json

mutual

/-- The tokens of a value. -/
def tokensOf : Json → List Token
  | .null => [.null]
  | .bool value => [.bool value]
  | .number value => [.number value]
  | .text value => [.text value]
  | .list [] => [.openList, .closeList]
  | .list (item :: items) => .openList :: (item.tokensOf ++ tokensOfItems items)
  | .object [] => [.openObject, .closeObject]
  | .object ((key, value) :: members) =>
    .openObject :: .text key :: .colon :: (value.tokensOf ++ tokensOfMembers members)

/-- The tokens of further items of a list, and of its end. -/
def tokensOfItems : List Json → List Token
  | [] => [.closeList]
  | item :: items => .comma :: (item.tokensOf ++ tokensOfItems items)

/-- The tokens of further members of an object, and of its end. -/
def tokensOfMembers : List (Text × Json) → List Token
  | [] => [.closeObject]
  | (key, value) :: members =>
    .comma :: .text key :: .colon :: (value.tokensOf ++ tokensOfMembers members)

end

/-- The value on one line, with `gap` behind commas and colons. -/
def written (gap : Text) (value : Json) : Text := value.tokensOf.flatMap (Token.spelled gap)

mutual

/-- All numbers of the value are whole ones that are read, and no key of an object occurs twice. -/
def IsWritable : Json → Prop
  | .null | .bool _ | .text _ => True
  | .number (.int value) => (Text.ofNat value.natAbs).length ≤ Integer.maxDigits
  | .number (.float _) => False
  | .list items => ItemsAreWritable items
  | .object members => (members.map Prod.fst).Nodup ∧ MembersAreWritable members

/-- The same of all items of a list. -/
def ItemsAreWritable : List Json → Prop
  | [] => True
  | item :: items => item.IsWritable ∧ ItemsAreWritable items

/-- The same of the values of all members. -/
def MembersAreWritable : List (Text × Json) → Prop
  | [] => True
  | (_, value) :: members => value.IsWritable ∧ MembersAreWritable members

end

/-! ## Tokens of a value -/

theorem run_cons {place next : Place} {token : Token} (h : place.step token = .ok next)
    (tokens : List Token) : place.run (token :: tokens) = next.run tokens := by
  rw [Place.run, List.foldlM_cons, h]
  rfl

/-- The first item of a list is read as a value. -/
theorem run_firstItem (value : Json) (outer : List Frame) (rest : List Token) :
    (Place.firstItem outer).run (value.tokensOf ++ rest) =
      (Place.value (.list [] :: outer)).run (value.tokensOf ++ rest) := by
  have hfirst : ∃ token later, value.tokensOf = token :: later ∧
      (Place.firstItem outer).step token = (Place.value (.list [] :: outer)).step token := by
    rcases value with _ | _ | _ | _ | (_ | _) | (_ | _) <;> exact ⟨_, _, rfl, rfl⟩
  obtain ⟨token, later, htokens, hstep⟩ := hfirst
  rw [htokens, List.cons_append, Place.run, List.foldlM_cons, hstep]
  rfl

mutual

/-- The tokens of a value are read as the value. -/
theorem run_tokensOf {value : Json} (h : value.IsWritable) (outer : List Frame)
    (rest : List Token) :
    (Place.value outer).run (value.tokensOf ++ rest) = (Place.behind value outer).run rest := by
  cases value with
  | null | bool | number | text => exact run_cons rfl rest
  | list items =>
    cases items with
    | nil => exact (run_cons rfl _).trans (run_cons rfl _)
    | cons item items =>
      rw [IsWritable, ItemsAreWritable] at h
      rw [tokensOf, List.cons_append, run_cons rfl, List.append_assoc, run_firstItem,
        run_tokensOf h.1]
      exact run_tokensOfItems h.2 [item] outer rest
  | object members =>
    cases members with
    | nil => exact (run_cons rfl _).trans (run_cons rfl _)
    | cons member members =>
      rw [IsWritable, MembersAreWritable] at h
      rw [tokensOf, List.cons_append, run_cons rfl, List.cons_append, run_cons rfl,
        List.cons_append, run_cons rfl, List.append_assoc, run_tokensOf h.2.1]
      exact run_tokensOfMembers h.2.2 [member] h.1 outer rest

/-- The further items of a list are read behind those that were read. -/
theorem run_tokensOfItems {items : List Json} (h : ItemsAreWritable items) (front : List Json)
    (outer : List Frame) (rest : List Token) :
    (Place.afterItem front outer).run (tokensOfItems items ++ rest) =
      (Place.behind (.list (front.reverse ++ items)) outer).run rest := by
  cases items with
  | nil =>
    rw [List.append_nil]
    exact run_cons rfl rest
  | cons item items =>
    rw [ItemsAreWritable] at h
    rw [tokensOfItems, List.cons_append, run_cons rfl, List.append_assoc, run_tokensOf h.1,
      Place.behind, run_tokensOfItems h.2, List.reverse_cons, List.append_assoc]
    rfl

/-- The further members of an object are read behind those that were read. -/
theorem run_tokensOfMembers {members : Members} (h : MembersAreWritable members) (front : Members)
    (hkeys : ((front ++ members).map Prod.fst).Nodup) (outer : List Frame) (rest : List Token) :
    (Place.afterMember front outer).run (tokensOfMembers members ++ rest) =
      (Place.behind (.object (front ++ members)) outer).run rest := by
  cases members with
  | nil =>
    rw [List.append_nil]
    exact run_cons rfl rest
  | cons member members =>
    rw [MembersAreWritable] at h
    have hnew : member.1 ∉ front.map Prod.fst := by
      rw [List.map_append, List.nodup_append] at hkeys
      exact fun hmem => hkeys.2.2 _ hmem _ List.mem_cons_self rfl
    rw [List.append_cons] at hkeys
    rw [tokensOfMembers, List.cons_append, run_cons rfl, List.cons_append, run_cons rfl,
      List.cons_append, run_cons rfl, List.append_assoc, run_tokensOf h.1, Place.behind,
      Assoc.put_of_not_mem hnew, run_tokensOfMembers h.2 _ hkeys, List.append_assoc]
    rfl

end

/-- What is read without a fault has no two numbers next to each other. -/
theorem isChain_of_run {place : Place} {tokens : List Token} {value : Json}
    (h : place.run tokens = .ok value) :
    tokens.IsChain fun a b => ¬ (a.isNumber ∧ b.isNumber) := by
  induction tokens generalizing place with
  | nil => exact .nil
  | cons a tokens ih =>
    cases hstep : place.step a with
    | error fault =>
      rw [Place.run, List.foldlM_cons, hstep] at h
      cases h
    | ok next =>
      rw [run_cons hstep] at h
      cases tokens with
      | nil => exact .singleton a
      | cons b tokens =>
        refine .cons_cons ?_ (ih h)
        rintro ⟨ha, hb⟩
        cases a <;> cases ha
        cases b <;> cases hb
        obtain ⟨v, outer, rfl⟩ : ∃ v outer, next = Place.behind v outer := by
          cases place <;> cases hstep <;> exact ⟨_, _, rfl⟩
        rcases outer with _ | ⟨_ | _, _⟩ <;> cases h

mutual

/-- The tokens of a value are written. -/
theorem isWritten_of_mem_tokensOf {value : Json} (h : value.IsWritable) :
    ∀ token ∈ value.tokensOf, token.IsWritten := by
  cases value with
  | null | bool | text => exact List.forall_mem_singleton.2 trivial
  | number value =>
    cases value with
    | int value => exact List.forall_mem_singleton.2 h
    | float value => cases h
  | list items =>
    cases items with
    | nil => simp [tokensOf, Token.IsWritten]
    | cons item items =>
      rw [IsWritable, ItemsAreWritable] at h
      rw [tokensOf, List.forall_mem_cons, List.forall_mem_append]
      exact ⟨trivial, isWritten_of_mem_tokensOf h.1, isWritten_of_mem_tokensOfItems h.2⟩
  | object members =>
    cases members with
    | nil => simp [tokensOf, Token.IsWritten]
    | cons member members =>
      rw [IsWritable, MembersAreWritable] at h
      rw [tokensOf, List.forall_mem_cons, List.forall_mem_cons, List.forall_mem_cons,
        List.forall_mem_append]
      exact ⟨trivial, trivial, trivial, isWritten_of_mem_tokensOf h.2.1,
        isWritten_of_mem_tokensOfMembers h.2.2⟩

private theorem isWritten_of_mem_tokensOfItems {items : List Json} (h : ItemsAreWritable items) :
    ∀ token ∈ tokensOfItems items, token.IsWritten := by
  cases items with
  | nil => exact List.forall_mem_singleton.2 trivial
  | cons item items =>
    rw [ItemsAreWritable] at h
    rw [tokensOfItems, List.forall_mem_cons, List.forall_mem_append]
    exact ⟨trivial, isWritten_of_mem_tokensOf h.1, isWritten_of_mem_tokensOfItems h.2⟩

private theorem isWritten_of_mem_tokensOfMembers {members : Members}
    (h : MembersAreWritable members) : ∀ token ∈ tokensOfMembers members, token.IsWritten := by
  cases members with
  | nil => exact List.forall_mem_singleton.2 trivial
  | cons member members =>
    rw [MembersAreWritable] at h
    rw [tokensOfMembers, List.forall_mem_cons, List.forall_mem_cons, List.forall_mem_cons,
      List.forall_mem_append]
    exact ⟨trivial, trivial, trivial, isWritten_of_mem_tokensOf h.1,
      isWritten_of_mem_tokensOfMembers h.2⟩

end

mutual

/-- With a space as the gap a value is written as values are shown. -/
theorem written_eq_encode (value : Json) : value.written " " = value.encode := by
  cases value with
  | null | bool | number | text => exact List.flatMap_singleton _ _
  | list items =>
    cases items with
    | nil => rfl
    | cons item items =>
      have hitem : item.tokensOf.flatMap (Token.spelled " ") = item.encode :=
        written_eq_encode item
      rw [written, tokensOf, List.flatMap_cons, List.flatMap_append, hitem, spelled_tokensOfItems,
        encode, encodeItems, Text.joined_cons, List.append_assoc, List.append_assoc]
      rfl
  | object members =>
    cases members with
    | nil => rfl
    | cons member members =>
      have hvalue : member.2.tokensOf.flatMap (Token.spelled " ") = member.2.encode :=
        written_eq_encode member.2
      rw [written, tokensOf, List.flatMap_cons, List.flatMap_cons, List.flatMap_cons,
        List.flatMap_append, hvalue, spelled_tokensOfMembers, encode, encodeMembers,
        Text.joined_cons]
      simp only [List.append_assoc]
      rfl

private theorem spelled_tokensOfItems (items : List Json) :
    (tokensOfItems items).flatMap (Token.spelled " ") =
      (encodeItems items).flatMap ((", " : Text) ++ ·) ++ "]" := by
  cases items with
  | nil => rfl
  | cons item items =>
    have hitem : item.tokensOf.flatMap (Token.spelled " ") = item.encode := written_eq_encode item
    rw [tokensOfItems, List.flatMap_cons, List.flatMap_append, hitem, spelled_tokensOfItems,
      encodeItems, List.flatMap_cons, List.append_assoc, List.append_assoc]
    rfl

private theorem spelled_tokensOfMembers (members : Members) :
    (tokensOfMembers members).flatMap (Token.spelled " ") =
      (encodeMembers members).flatMap ((", " : Text) ++ ·) ++ "\x7d" := by
  cases members with
  | nil => rfl
  | cons member members =>
    have hvalue : member.2.tokensOf.flatMap (Token.spelled " ") = member.2.encode :=
      written_eq_encode member.2
    rw [tokensOfMembers, List.flatMap_cons, List.flatMap_cons, List.flatMap_cons,
      List.flatMap_append, hvalue, spelled_tokensOfMembers, encodeMembers, List.flatMap_cons]
    simp only [List.append_assoc]
    rfl

end

variable {gap : Text} {value : Json}

theorem run_tokensOf_nil (h : value.IsWritable) :
    (Place.value []).run value.tokensOf = .ok value := by
  have hrun := run_tokensOf h [] []
  rw [List.append_nil] at hrun
  exact hrun

/-- The tokens of a written value are the value's. -/
theorem tokens_written (hgap : ∀ p ∈ gap, isSeparator p) (h : value.IsWritable) :
    tokens (value.written gap) = value.tokensOf := by
  have hread : tokens (value.written gap ++ []) = value.tokensOf ++ tokens [] :=
    tokens_spelled hgap (isWritten_of_mem_tokensOf h) (isChain_of_run (run_tokensOf_nil h))
      fun _ hp => nomatch hp
  rw [List.append_nil, tokens, List.append_nil] at hread
  exact hread

/-- A text that begins with a brace is read from its tokens. -/
theorem decode_brace (rest : Text) : decode (.char '\x7b' :: rest) =
    (Place.value []).run (tokens (.char '\x7b' :: rest)) := rfl

/-- An object is written from a brace on. -/
theorem exists_written_object (gap : Text) (members : Members) :
    ∃ rest, (object members).written gap = .char '\x7b' :: rest := by
  cases members <;> exact ⟨_, rfl⟩

/-- A text with the tokens of an object is read as the object. -/
theorem decode_of_tokens {t : Text} {members : Members}
    (ht : tokens t = (object members).tokensOf) (h : (object members).IsWritable) :
    decode t = .ok (object members) := by
  have hrun := run_tokensOf_nil h
  rw [← ht] at hrun
  unfold decode
  split
  · next rest =>
    -- the tokens of an object begin with a brace, and a byte order mark begins no token
    have hmark : tokens (.char '\uFEFF' :: rest) = .stray :: tokens rest := tokens_cons rfl rfl
    rw [hmark] at ht
    cases members <;> cases ht
  · exact hrun

/-- A written object is read as the object. -/
theorem decode_written {members : Members} (hgap : ∀ p ∈ gap, isSeparator p)
    (h : (object members).IsWritable) :
    decode ((object members).written gap) = .ok (object members) :=
  decode_of_tokens (tokens_written hgap h) h

end Json

end Playback
