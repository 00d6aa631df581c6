import Playback.Proofs.Locator.Rearranged
import Playback.Proofs.Locator.RoleArguments
import Playback.Proofs.Locator.Segments

/-!
# Flags that are not set

A description asks for an exact match by a flag. One that is not set is never written, like one that
is missing. Only a role without a name tells the two apart: it takes its name from its attributes
where there is no flag at all.

* `Json.DropsFlag`: a value without one of its flags that is not set.
* `Description.HidesName`: the flag of a link keeps an attribute from giving the name.
  `Json.GainsName`: a chain with a locator gets a name at such a link.
* `Json.DropsFlag.exists_members`: the two values are read alike but for a chain that loses a flag.
* `Description.LosesFlag.gainsName_or_eq`: without the flag a chain comes to the same, or it gets a
  name. `Description.GainsName.ofChain_cases`: if it does, it is another locator.
* `Locator.code_of_dropsFlag_iff`: the code of a target stays the same exactly if no name is gained.
-/

namespace Playback

/-- The second object has the members of the first one but for a flag that is not set. -/
inductive Json.Members.DropsFlag : Json.Members → Json.Members → Prop
  | intro (before after : Json.Members) {flag : Json} (h : flag.readFlag = .valid false) :
    DropsFlag (before ++ (("exact" : Text), flag) :: after) (before ++ after)

/-- The second value is the first one without a flag that is not set: one of the object itself, of
its options, or of a description nested in it. -/
inductive Json.DropsFlag : Json → Json → Prop
  | member {members members' : Json.Members} (h : members.DropsFlag members') :
    DropsFlag (.object members) (.object members')
  | options (before after : Json.Members) {members members' : Json.Members}
    (h : members.DropsFlag members') :
    DropsFlag (.object (before ++ (("options" : Text), .object members) :: after))
      (.object (before ++ (("options" : Text), .object members') :: after))
  | next (before after : Json.Members) {value value' : Json} (h : DropsFlag value value') :
    DropsFlag (.object (before ++ (("next" : Text), value) :: after))
      (.object (before ++ (("next" : Text), value') :: after))

namespace DescriptionOptions

/-- The options without a flag. -/
def unflagged (options : DescriptionOptions) : DescriptionOptions := { options with exact := none }

end DescriptionOptions

namespace Description

/-- The link without a flag. -/
def unflagged (d : Description) : Description := { d with options := d.options.unflagged }

/-- The link is a role without a name, and its flag, which is not set, keeps an attribute from
giving it one. -/
structure HidesName (d : Description) : Prop where
  kind : d.kind = ("role" : Text)
  name : d.options.name = none
  exact : d.options.exact = some false
  given : ∃ a ∈ d.options.attributes, a.givesName

/-- The second chain is the first one, or it is without the flag of one link, which is not set. -/
inductive LosesFlag : List Description → List Description → Prop
  | same (chain : List Description) : LosesFlag chain chain
  | here {d : Description} (h : d.options.exact = some false) (chain : List Description) :
    LosesFlag (d :: chain) (d.unflagged :: chain)
  | behind (d : Description) {chain chain' : List Description} (h : LosesFlag chain chain') :
    LosesFlag (d :: chain) (d :: chain')

/-- The second chain is without the flag of a link that hides a name. -/
inductive GainsName : List Description → List Description → Prop
  | here {d : Description} (h : d.HidesName) (chain : List Description) :
    GainsName (d :: chain) (d.unflagged :: chain)
  | behind (d : Description) {chain chain' : List Description} (h : GainsName chain chain') :
    GainsName (d :: chain) (d :: chain')

end Description

/-- The first value describes a chain that has a locator, and the second one the same chain without
the flag of a link that hides a name. -/
def Json.GainsName (description description' : Json) : Prop :=
  ∃ members chain chain' locator, description = .object members ∧
    Locator.hasRole members = false ∧ description.DescribesChain chain ∧
    description'.DescribesChain chain' ∧ Description.GainsName chain chain' ∧
    Locator.described description = .ok (some locator)

/-! ## What is read -/

namespace Json.Members

variable {α : Type} {members members' before after : Members} {key : Text} {value : Json}

/-- Where no key comes twice, the member between others is found. -/
theorem get?_middle (h : ((before ++ (key, value) :: after).map Prod.fst).Nodup) :
    get? (before ++ (key, value) :: after) key = some value :=
  (lookup_eq_some_iff_mem h).2 (List.mem_append_right _ List.mem_cons_self)

theorem optional_middle {absent : α} {read : Json → Checked α}
    (h : ((before ++ (key, value) :: after).map Prod.fst).Nodup) :
    optional (before ++ (key, value) :: after) { name := key } absent read =
      (read value).under (.key key) := by
  unfold optional
  rw [entry?_eq, get?_middle h]
  rfl

theorem map_withUnicodeNames {β : Type} (f : α → β) (members : Members) (checked : Checked α) :
    f <$> members.withUnicodeNames checked = members.withUnicodeNames (f <$> checked) := by
  unfold withUnicodeNames
  split <;> rfl

namespace DropsFlag

theorem get?_eq (h : members.DropsFlag members') {name : Text} (hname : name ≠ ("exact" : Text)) :
    members'.get? name = members.get? name := by
  cases h with
  | intro before after =>
    unfold get?
    rw [List.lookup_append, List.lookup_append, List.lookup_cons, beq_eq_false_iff_ne.2 hname]

theorem withUnicodeNames_eq (h : members.DropsFlag members') (checked : Checked α) :
    members'.withUnicodeNames checked = members.withUnicodeNames checked := by
  cases h with
  | intro before after =>
    have hname : Text.isUnicode "exact" := by decide
    unfold withUnicodeNames
    rw [List.all_append, List.all_append, List.all_cons, hname, Bool.true_and]

/-- The flag is read as not set. -/
theorem nullable_eq (h : members.DropsFlag members') (hkeys : (members.map Prod.fst).Nodup) :
    members.nullable { name := "exact" } readFlag = .valid (some false) := by
  cases h with
  | @intro before after flag hflag =>
    refine optional_of_get? (get?_middle hkeys) ?_
    cases flag with
    | null => cases hflag
    | bool | number | text | list | object => exact congrArg (some <$> ·) hflag

/-- Without it there is none. -/
theorem nullable_eq_none (h : members.DropsFlag members') (hkeys : (members.map Prod.fst).Nodup) :
    members'.nullable { name := "exact" } readFlag = .valid none := by
  cases h with
  | intro before after =>
    refine optional_of_missing (lookup_eq_none_iff_not_mem.2 fun hmem => ?_)
    rw [List.map_append, List.map_cons, List.nodup_middle, List.nodup_cons] at hkeys
    exact hkeys.1 (by rwa [← List.map_append])

end DropsFlag

end Json.Members

open Json.Members

theorem DescriptionOptions.read_of_dropsFlag {members members' : Json.Members}
    (h : members.DropsFlag members') (hkeys : (members.map Prod.fst).Nodup) :
    read members' = unflagged <$> read members := by
  have hname : members'.nullable { name := "name" } Json.readText =
      members.nullable { name := "name" } Json.readText :=
    optional_of_read_eq (congrArg _ (h.get?_eq (by decide)))
  have hattributes : members'.optional { name := "attrs" } []
      (Json.readList (Json.readPart "LocatorAttr" Attribute.read)) =
        members.optional { name := "attrs" } []
          (Json.readList (Json.readPart "LocatorAttr" Attribute.read)) :=
    optional_of_read_eq (congrArg _ (h.get?_eq (by decide)))
  unfold read
  rw [map_withUnicodeNames, h.withUnicodeNames_eq, h.nullable_eq hkeys, h.nullable_eq_none hkeys,
    hname, hattributes]
  refine congrArg (members.withUnicodeNames ·) ?_
  cases members.nullable { name := "name" } Json.readText <;>
    cases members.optional { name := "attrs" } []
      (Json.readList (Json.readPart "LocatorAttr" Attribute.read)) <;> rfl

theorem DescriptionOptions.exact_of_dropsFlag {members members' : Json.Members}
    {options : DescriptionOptions} (h : members.DropsFlag members')
    (hkeys : (members.map Prod.fst).Nodup) (hread : read members = .valid options) :
    options.exact = some false := by
  obtain ⟨-, hread⟩ := withUnicodeNames_eq_valid_iff.1 hread
  rw [h.nullable_eq hkeys] at hread
  obtain ⟨make, attributes, hmake, -, rfl⟩ := Checked.seq_eq_valid_iff.1 hread
  obtain ⟨make', flag, hmake', hflag, rfl⟩ := Checked.seq_eq_valid_iff.1 hmake
  obtain ⟨name, -, rfl⟩ := Checked.map_eq_valid_iff.1 hmake'
  cases hflag
  rfl

namespace Description

/-- But for the flag, and for what the options and a nested description hold, the two objects have
the same for every key. -/
structure AreAlikeButFlag (members members' : Json.Members) : Prop where
  get : ∀ name ∉ (["exact", "options", "next"] : List Text), members'.get? name = members.get? name
  exact : members'.nullable { name := "exact" } Json.readFlag =
      members.nullable { name := "exact" } Json.readFlag ∨
    members.nullable { name := "exact" } Json.readFlag = .valid (some false) ∧
      members'.nullable { name := "exact" } Json.readFlag = .valid none

section Read

variable {members members' before after : Json.Members} {value value' : Json}

theorem areAlikeButFlag_of_dropsFlag (h : members.DropsFlag members')
    (hkeys : (members.map Prod.fst).Nodup) : AreAlikeButFlag members members' where
  get name hname := h.get?_eq fun heq => hname (by rw [heq]; exact List.mem_cons_self)
  exact := .inr ⟨h.nullable_eq hkeys, h.nullable_eq_none hkeys⟩

/-- Another value of the options or of the nested description changes nothing else. -/
theorem areAlikeButFlag_of_replaced {key : Text} (hkey : key = ("options" : Text) ∨
    key = ("next" : Text)) :
    AreAlikeButFlag (before ++ (key, value) :: after) (before ++ (key, value') :: after) where
  get name hname := by
    refine get?_replaced ?_
    rintro rfl
    rcases hkey with rfl | rfl <;> exact hname (by decide)
  exact := by
    have hne : ("exact" : Text) ≠ key := by rcases hkey with rfl | rfl <;> decide
    exact .inl (optional_of_read_eq (congrArg _ (get?_replaced hne)))

/-- A link that is read from the same members is the same. -/
theorem read_eq_of_get?
    (hnames : ∀ link : Checked Description,
      members'.withUnicodeNames link = members.withUnicodeNames link)
    (h : ∀ name ≠ ("exact" : Text), name ≠ ("next" : Text) →
      members'.get? name = members.get? name) : read members' = read members := by
  unfold read
  rw [hnames, required_of_get?_eq (h "kind" (by decide) (by decide)),
    required_of_get?_eq (h "body" (by decide) (by decide)),
    optional_of_read_eq (congrArg _ (h "options" (by decide) (by decide)))]

section Options

variable (h : members.DropsFlag members') (hkeys : (members.map Prod.fst).Nodup)
  (houter : ((before ++ (("options" : Text), Json.object members) :: after).map Prod.fst).Nodup)

include h hkeys houter

/-- Options without a flag are those of a link without it. -/
theorem read_options_of_dropsFlag :
    read (before ++ (("options" : Text), .object members') :: after) =
      unflagged <$> read (before ++ (("options" : Text), .object members) :: after) := by
  have hnames := map_fst_replaced before after "options" (.object members) (.object members')
  have hget {name : Text} (hname : name ≠ ("options" : Text)) :
      Json.Members.get? (before ++ (("options" : Text), .object members') :: after) name =
        Json.Members.get? (before ++ (("options" : Text), .object members) :: after) name :=
    get?_replaced hname
  unfold read
  rw [map_withUnicodeNames, withUnicodeNames_of_perm (.of_eq hnames), optional_middle houter,
    optional_middle (by rw [hnames]; exact houter),
    required_of_get?_eq (hget (by decide)), required_of_get?_eq (hget (by decide))]
  refine congrArg (Json.Members.withUnicodeNames _ ·) ?_
  have hoptions : Json.readPart "LocatorOptions" DescriptionOptions.read (.object members') =
      DescriptionOptions.unflagged <$> DescriptionOptions.read members :=
    DescriptionOptions.read_of_dropsFlag h hkeys
  have hoptions' : Json.readPart "LocatorOptions" DescriptionOptions.read (.object members) =
      DescriptionOptions.read members := rfl
  rw [hoptions, hoptions']
  -- Whichever of the parts have problems, the flag is in none of them.
  cases Json.Members.required _ _ _ <;> cases Json.Members.required _ _ _ <;>
    cases DescriptionOptions.read members <;> rfl

theorem exact_of_read_options {d : Description}
    (hread : read (before ++ (("options" : Text), .object members) :: after) = .valid d) :
    d.options.exact = some false := by
  obtain ⟨-, hread⟩ := withUnicodeNames_eq_valid_iff.1 hread
  rw [optional_middle houter] at hread
  obtain ⟨make, options, hmake, hoptions, rfl⟩ := Checked.seq_eq_valid_iff.1 hread
  obtain ⟨make', body, hmake', -, rfl⟩ := Checked.seq_eq_valid_iff.1 hmake
  obtain ⟨kind, -, rfl⟩ := Checked.map_eq_valid_iff.1 hmake'
  exact DescriptionOptions.exact_of_dropsFlag h hkeys (Checked.under_eq_valid_iff.1 hoptions)

end Options

end Read

theorem rel_losesFlag_refl (chain? : Option (List Description)) :
    Option.Rel LosesFlag chain? chain? := by
  cases chain? with
  | none => exact .none
  | some chain => exact .some (.same chain)

end Description

open Description in
/-- Both values are objects that are read alike, but for a chain that loses a flag. -/
theorem Json.DropsFlag.exists_members {value value' : Json} (h : value.DropsFlag value')
    (hkeys : value.HasDistinctKeys) : ∃ members members', value = .object members ∧
      value' = .object members' ∧ AreAlikeButFlag members members' ∧
        Option.Rel LosesFlag (chain? (.object members)) (chain? (.object members')) := by
  -- the flag goes beside the kind, from the options, or from a description behind this one
  induction h with
  | @member members members' h =>
    refine ⟨_, _, rfl, rfl, areAlikeButFlag_of_dropsFlag h hkeys.nodup, ?_⟩
    have hread : read members' = read members :=
      read_eq_of_get? h.withUnicodeNames_eq fun _ hname _ => h.get?_eq hname
    rw [chain?_object, chain?_object, hread, h.get?_eq (by decide)]
    exact rel_losesFlag_refl _
  | @options before after members members' h =>
    refine ⟨_, _, rfl, rfl, areAlikeButFlag_of_replaced (.inl rfl), ?_⟩
    have hinner : (members.map Prod.fst).Nodup :=
      (hkeys.of_mem_members _ (List.mem_append_right _ List.mem_cons_self)).nodup
    have hexact (d : Description) := exact_of_read_options (d := d) h hinner hkeys.nodup
    rw [chain?_object, chain?_object, read_options_of_dropsFlag h hinner hkeys.nodup,
      get?_replaced (show ("next" : Text) ≠ "options" by decide)]
    generalize Option.getD _ _ = rest
    cases hread : read _ with
    | invalid => exact .none
    | valid d =>
      cases rest with
      | none => exact .none
      | some rest => exact .some (.here (hexact d hread) rest)
  | @next before after value value' h ih =>
    refine ⟨_, _, rfl, rfl, areAlikeButFlag_of_replaced (.inr rfl), ?_⟩
    have hvalue := hkeys.of_mem_members _ (List.mem_append_right _ List.mem_cons_self)
    obtain ⟨members, members', hobject, hobject', -, hrel⟩ := ih hvalue
    subst hobject hobject'
    have hnames := map_fst_replaced before after "next" (.object members) (.object members')
    have hread : read (before ++ (("next" : Text), .object members') :: after) =
        read (before ++ (("next" : Text), .object members) :: after) :=
      read_eq_of_get? (fun _ => withUnicodeNames_of_perm (.of_eq hnames)) fun _ _ hname =>
        get?_replaced hname
    have hnested (members : Json.Members) :
        nested? (.object members) = chain? (.object members) := rfl
    rw [chain?_object, chain?_object, hread, get?_middle hkeys.nodup,
      get?_middle (by rw [hnames]; exact hkeys.nodup), Option.map_some, Option.map_some,
      Option.getD_some, Option.getD_some, hnested, hnested]
    cases read _ with
    | invalid => exact .none
    | valid d =>
      refine rel_map (?_ : Option.Rel _ _ _)
      exact rel_imp hrel fun _ _ => .behind d

/-! ## What a chain comes to -/

namespace DescriptionOptions

variable {options : DescriptionOptions}

theorem roleName_of_exact {flag : Bool} (h : options.exact = some flag) :
    options.roleName = options.name := by
  rw [roleName, h, Option.isNone_some, Bool.and_false, if_neg Bool.false_ne_true]

theorem roleName_unflagged (options : DescriptionOptions) : options.unflagged.roleName =
    options.name.or ((options.attributes.find? Attribute.givesName).map (·.value.displayed)) := by
  rw [roleName, find?_given]
  show (if options.name.isNone && true then _ else options.name) = _
  cases options.name <;> rfl

theorem isExact_unflagged (h : options.exact = some false) :
    options.unflagged.isExact = options.isExact := by
  rw [isExact, isExact, h]
  rfl

end DescriptionOptions

namespace Description

variable {d : Description} {chain chain' : List Description}

/-- A flag that is not set makes no difference to a link that hides no name. -/
theorem link?_unflagged (hexact : d.options.exact = some false) (h : ¬ d.HidesName) :
    d.unflagged.link? = d.link? := by
  have hisExact : d.unflagged.options.isExact = d.options.isExact :=
    DescriptionOptions.isExact_unflagged hexact
  by_cases hkind : d.kind = ("role" : Text)
  · have hname : d.unflagged.options.roleName = d.options.roleName := by
      refine (DescriptionOptions.roleName_unflagged d.options).trans ?_
      rw [DescriptionOptions.roleName_of_exact hexact]
      cases hown : d.options.name with
      | some name => rfl
      | none =>
        have hnone : d.options.attributes.find? Attribute.givesName = none :=
          List.find?_eq_none.2 fun a ha hgives => h ⟨hkind, hown, hexact, a, ha, hgives⟩
        rw [hnone]
        rfl
    have hkind' : d.unflagged.kind = ("role" : Text) := hkind
    rw [link?_role hkind', link?_role hkind, hname, hisExact]
    rfl
  · have hkind' : d.unflagged.kind ≠ ("role" : Text) := hkind
    unfold link?
    rw [if_neg hkind', if_neg hkind, hisExact]
    rfl

/-- A link that hides a name has none, and has one without its flag. -/
theorem HidesName.link?_eq (h : d.HidesName) : ∃ name,
    d.link? = (fun states => some (.role d.body none false states)) <$> d.options.states ∧
    d.unflagged.link? =
      (fun states => some (.role d.body (some name) false states)) <$> d.options.states := by
  obtain ⟨a, ha⟩ := Option.isSome_iff_exists.1 (List.find?_isSome.2 h.given)
  have hkind' : d.unflagged.kind = ("role" : Text) := h.kind
  have hexact : d.options.isExact = false := by
    rw [DescriptionOptions.isExact, h.exact]
    rfl
  have hexact' : d.unflagged.options.isExact = false :=
    (DescriptionOptions.isExact_unflagged h.exact).trans hexact
  have hname : d.options.roleName = none :=
    (DescriptionOptions.roleName_of_exact h.exact).trans h.name
  have hname' : d.unflagged.options.roleName = some a.value.displayed := by
    refine (DescriptionOptions.roleName_unflagged d.options).trans ?_
    rw [h.name, ha]
    rfl
  refine ⟨a.value.displayed, ?_, ?_⟩
  · rw [link?_role h.kind, hname, hexact]
  · rw [link?_role hkind', hname', hexact']
    rfl

/-- Without one flag a chain gets a name, or it comes to the same. -/
theorem LosesFlag.gainsName_or_eq (h : LosesFlag chain chain') :
    GainsName chain chain' ∨ Locator.ofChain chain' = Locator.ofChain chain := by
  induction h with
  | same chain => exact .inr rfl
  | @here d hexact chain =>
    by_cases hhides : d.HidesName
    · exact .inl (.here hhides chain)
    · right
      rw [Locator.ofChain, Locator.ofChain, link?_unflagged hexact hhides]
  | behind d _ ih =>
    refine ih.imp (.behind d) fun heq => ?_
    rw [Locator.ofChain, Locator.ofChain, heq]

/-- Where a chain gets a name, both have a locator, and the code of the two shows the name; or they
come to the same, which is no locator. -/
theorem GainsName.ofChain_cases (h : GainsName chain chain') :
    (∃ locator locator', Locator.ofChain chain = .ok (some locator) ∧
      Locator.ofChain chain' = .ok (some locator') ∧
      locator.map Link.segment ≠ locator'.map Link.segment) ∨
    Locator.ofChain chain' = Locator.ofChain chain ∧
      ∀ locator, Locator.ofChain chain ≠ .ok (some locator) := by
  have hfault {fault : Integer.Fault} (locator : Locator) :
      (.error fault : Except Integer.Fault (Option Locator)) ≠ .ok (some locator) := by simp
  have hnothing (locator : Locator) :
      (.ok none : Except Integer.Fault (Option Locator)) ≠ .ok (some locator) := by simp
  induction h with
  | @here d hhides chain =>
    -- the rest of the chain is the same, and may have no locator
    obtain ⟨name, hlink, hlink'⟩ := hhides.link?_eq
    rw [Locator.ofChain, Locator.ofChain, hlink, hlink']
    cases d.options.states with
    | error fault => exact .inr ⟨rfl, hfault⟩
    | ok states =>
      rcases Locator.ofChain chain with fault | _ | rest
      · exact .inr ⟨rfl, hfault⟩
      · exact .inr ⟨rfl, hnothing⟩
      · refine .inl ⟨_, _, rfl, rfl, fun hsame => ?_⟩
        have hhead := (List.cons.inj hsame).1
        cases hhead
  | @behind d chain chain' _ ih =>
    rw [Locator.ofChain, Locator.ofChain]
    rcases d.link? with fault | _ | link
    · exact .inr ⟨rfl, hfault⟩
    · exact .inr ⟨rfl, hnothing⟩
    · rcases ih with ⟨rest, rest', hrest, hrest', hne⟩ | ⟨heq, hnone⟩
      · refine .inl ⟨link :: rest, link :: rest', ?_, ?_, fun hsame => ?_⟩
        · rw [hrest]
          rfl
        · rw [hrest']
          rfl
        · exact hne (List.cons.inj hsame).2
      · refine .inr ⟨by rw [heq], fun locator hlocator => ?_⟩
        have hbind : (Locator.ofChain chain >>= fun rest? => .ok (rest?.map (link :: ·))) =
            .ok (some locator) := hlocator
        obtain ⟨_ | rest, hrest, hmap⟩ := bind_eq_ok_iff.1 hbind
        · cases hmap
        · exact hnone rest hrest

end Description

/-! ## What a target comes to -/

namespace Locator

/-- The code of a locator shows its segments. -/
theorem map_segment_eq_of_print_eq {root : Expression} {locator locator' : Locator}
    (h : (locator.expression root).print = (locator'.expression root).print) :
    locator.map Link.segment = locator'.map Link.segment := by
  have hsteps (locator : Locator) : (locator.expression root).print =
      root.print ++ (Step.along [] locator).flatMap Step.written := print_expression root [] locator
  rw [hsteps, hsteps] at h
  exact (Step.along_inj (Step.map_segment?_eq (List.append_cancel_left h))).2

/-- A description that has a locator has its code. -/
theorem code_of_described {description : Json} {locator : Locator}
    (h : described description = .ok (some locator)) (root : Expression) (selector : Option Text) :
    code root selector description = .ok (locator.expression root).print := by
  rw [code, ofTarget_of_locator h]
  rfl

end Locator

namespace Description.AreAlikeButFlag

open Locator

variable {members members' : Json.Members}

theorem hasRole_eq (h : AreAlikeButFlag members members') : hasRole members' = hasRole members := by
  unfold hasRole
  rw [h.get "role" (by decide)]

theorem ofRole?_eq (h : AreAlikeButFlag members members') : ofRole? members' = ofRole? members := by
  have hname : members'.nullable { name := "name" } Json.readText =
      members.nullable { name := "name" } Json.readText :=
    optional_of_read_eq (congrArg _ (h.get "name" (by decide)))
  unfold ofRole?
  rw [required_of_get?_eq (h.get "role" (by decide)), hname]
  rcases h.exact with hexact | ⟨hexact, hexact'⟩
  · rw [hexact]
  · rw [hexact, hexact']
    cases members.required { name := "role" } Json.readText <;>
      cases members.nullable { name := "name" } Json.readText <;> rfl

/-- Such objects describe the same target, if their chains come to the same. -/
theorem code_eq (h : AreAlikeButFlag members members')
    (hchain : hasRole members = false → (chain? (.object members')).map ofChain =
      (chain? (.object members)).map ofChain) (root : Expression) (selector : Option Text) :
    code root selector (.object members') = code root selector (.object members) := by
  have hboth : hasKindAndBody members' = hasKindAndBody members := by
    unfold hasKindAndBody
    rw [h.get "kind" (by decide), h.get "body" (by decide)]
  have hsingle : ofSingleKey? members' = ofSingleKey? members := by
    have hother : ∀ key ∈ singleKeys.map Prod.fst,
        key ∉ (["exact", "options", "next"] : List Text) := by decide
    exact ofSingleKey?_congr fun key hkey => h.get key (hother key hkey)
  have hdescribed : described (.object members') = described (.object members) := by
    rw [described_object, described_object, h.hasRole_eq, h.ofRole?_eq, hboth, hsingle]
    cases hrole : hasRole members with
    | true => rfl
    | false => rw [hchain hrole]
  have hbody : bodySelector? (.object members') = bodySelector? (.object members) := by
    unfold bodySelector?
    dsimp only
    rw [h.get "body" (by decide)]
  have htarget := ofTarget_congr (by rfl) hdescribed hbody selector
  have hcode (description : Json) : code root selector description =
      ((ofTarget selector description).map Prod.fst).map fun locator =>
        (locator.expression root).print := by
    rw [code]
    cases ofTarget selector description <;> rfl
  rw [hcode, hcode, htarget]

/-- Where a name is gained, the code is another one. -/
theorem code_ne (h : AreAlikeButFlag members members')
    (hgains : (Json.object members).GainsName (.object members')) (root : Expression)
    (selector : Option Text) :
    code root selector (.object members') ≠ code root selector (.object members) := by
  obtain ⟨_, chain, chain', locator, ⟨rfl⟩, hrole, hchain, hchain', hgains, hlocator⟩ := hgains
  have hrole' : hasRole members' = false := h.hasRole_eq.trans hrole
  rcases hgains.ofChain_cases with ⟨found, found', hfound, hfound', hne⟩ | ⟨-, hnone⟩
  · rw [← described_of_describesChain hrole hchain] at hfound
    rw [← described_of_describesChain hrole' hchain'] at hfound'
    rw [code_of_described hfound, code_of_described hfound']
    intro hcode
    exact hne (map_segment_eq_of_print_eq (Except.ok.inj hcode).symm)
  · rw [described_of_describesChain hrole hchain] at hlocator
    exact absurd hlocator (hnone locator)

end Description.AreAlikeButFlag

namespace Locator

/-- Without a flag that is not set the code of a target is the same on every page and behind every
selector, unless a chain with a locator gets a name by it. -/
theorem code_of_dropsFlag_iff {description description' : Json}
    (h : description.DropsFlag description') (hkeys : description.HasDistinctKeys)
    (root : Expression) (selector : Option Text) :
    code root selector description' = code root selector description ↔
      ¬ description.GainsName description' := by
  obtain ⟨members, members', rfl, rfl, halike, hrel⟩ := h.exists_members hkeys
  refine ⟨fun hcode hgains => halike.code_ne hgains root selector hcode, fun hnot => ?_⟩
  refine halike.code_eq (fun hrole => ?_) root selector
  generalize hchain : Description.chain? (.object members) = chain? at hrel
  generalize hchain' : Description.chain? (.object members') = chain?' at hrel
  cases hrel with
  | none => rfl
  | @some chain chain' hloses =>
    refine congrArg some ?_
    rcases hloses.gainsName_or_eq with hgains | heq
    · rcases hgains.ofChain_cases with ⟨locator, -, hlocator, -, -⟩ | ⟨heq, -⟩
      · rw [Description.chain?_eq_some_iff] at hchain hchain'
        rw [← described_of_describesChain hrole hchain] at hlocator
        exact absurd ⟨members, chain, chain', locator, rfl, hrole, hchain, hchain', hgains,
          hlocator⟩ hnot
      · exact heq
    · exact heq

/-- A button in a form: the flag is one of the nested description. -/
theorem code_of_dropsFlag_iff_button :
    let form (next : Json) : Json :=
      .object [("kind", .text "css"), ("body", .text "form"), ("next", next)]
    let button (options : Json) : Json :=
      .object [("kind", .text "role"), ("body", .text "button"), ("options", options)]
    let options : Json := .object [("name", .text "a"), ("exact", .bool false)]
    let flagged := form (button options)
    let unflagged := form (button (.object [("name", .text "a")]))
    flagged.DropsFlag unflagged ∧ flagged.HasDistinctKeys ∧
      (code (.name "pg") none unflagged = code (.name "pg") none flagged ↔
        ¬ flagged.GainsName unflagged) := by
  intro form button options flagged unflagged
  have hdrops : flagged.DropsFlag unflagged :=
    .next [_, _] [] (.options [_, _] [] (.intro [_] [] rfl))
  have hkeys : flagged.HasDistinctKeys := by
    have hoptions : options.HasDistinctKeys :=
      .object (by decide) (by simp [Json.HasDistinctKeys.text, Json.HasDistinctKeys.bool])
    have hbutton : (button options).HasDistinctKeys :=
      .object (by decide) (by simp [Json.HasDistinctKeys.text, hoptions])
    exact .object (by decide) (by simp [Json.HasDistinctKeys.text, hbutton])
  exact ⟨hdrops, hkeys, code_of_dropsFlag_iff hdrops hkeys (.name "pg") none⟩

/-- Without its flag, which is not set, a button takes its name from an attribute. -/
theorem code_ne_hiddenName :
    let entry : Json := .object [("name", .text "name"), ("value", .text "Go")]
    let attributes : Json := .list [entry]
    let button (options : Json.Members) : Json :=
      .object [("kind", .text "role"), ("body", .text "button"), ("options", .object options)]
    let flagged := button [("exact", .bool false), ("attrs", attributes)]
    let unflagged := button [("attrs", attributes)]
    flagged.DropsFlag unflagged ∧ flagged.HasDistinctKeys ∧
      code (.name "pg") none flagged = .ok "pg.get_by_role(\"button\")" ∧
      code (.name "pg") none unflagged = .ok "pg.get_by_role(\"button\", name=\"Go\")" ∧
      code (.name "pg") none unflagged ≠ code (.name "pg") none flagged := by
  intro entry attributes button flagged unflagged
  have hkeys : flagged.HasDistinctKeys := by
    have hentry : entry.HasDistinctKeys :=
      .object (by decide) (by simp [Json.HasDistinctKeys.text])
    have hattributes : attributes.HasDistinctKeys := .list (by simp [hentry])
    have hoptions : (Json.object [("exact", .bool false), ("attrs", attributes)]).HasDistinctKeys :=
      .object (by decide) (by simp [Json.HasDistinctKeys.bool, hattributes])
    exact .object (by decide) (by simp [Json.HasDistinctKeys.text, hoptions])
  have hflagged : code (.name "pg") none flagged = .ok "pg.get_by_role(\"button\")" :=
    toOption_eq_some_iff.1 (by decide +kernel)
  have hunflagged :
      code (.name "pg") none unflagged = .ok "pg.get_by_role(\"button\", name=\"Go\")" :=
    toOption_eq_some_iff.1 (by decide +kernel)
  refine ⟨.options [_, _] [] (.intro [] [_] rfl), hkeys, hflagged, hunflagged, ?_⟩
  rw [hflagged, hunflagged]
  exact fun h => absurd (Except.ok.inj h) (by decide)

end Locator

end Playback
