import Playback.Proofs.Json.Reordered
import Playback.Proofs.Recording.Fields
import Playback.Proofs.Recording.Kinds
import Playback.Proofs.Schema.Declared
import Playback.Recording.Basic

/-!
# The problems of a record

* `Declaration.IsMet`: an object has what is declared of a field.
* `Kind.ignores_report`, `Json.Members.report_of_reordered`: the problems do not depend on the order
  of members.
* `Kind.IsNamed`, `Json.Members.AreNamedBy`: the objects that declared fields are read from have
  names that are Unicode text. If so, their problems are those of the fields, and else there is one
  more: `Json.Members.report_of_areNamedBy`, `Json.Members.exists_of_not_areNamedBy`.
* `Json.Members.report_of_others`: another value of a field changes the problems of this field only.
* `Recording.ReportsFields`: what is expected of the errors of records.
  `Recording.reportsFields_of_decode`: this holds of headers and events.
-/

namespace Playback

open Json (Reordered Ignores ignores_of_steps)

/-! ## Fields -/

namespace Declaration

variable {κ : Type} {judge judge' : κ → Json → List Problem} {declaration : Declaration κ}
  {members others : Json.Members}

/-- An object has what is declared of a field: no value where none is required, or a value without a
problem. -/
def IsMet (declaration : Declaration κ) (judge : κ → Json → List Problem)
    (members : Json.Members) : Prop :=
  match members.entry? declaration.field with
  | some entry => judge declaration.kind entry.2 = []
  | none => declaration.isRequired = false

theorem report_eq_nil_iff : declaration.report judge members = [] ↔
    declaration.IsMet judge members := by
  unfold report IsMet
  cases members.entry? declaration.field with
  | none => simp
  | some entry => simp

/-- A field has the same problems in objects where its names find values with the same problems. -/
theorem report_congr (h : ∀ name ∈ declaration.field.names,
    (others.get? name).map (judge declaration.kind) =
      (members.get? name).map (judge declaration.kind)) :
    declaration.report judge others = declaration.report judge members := by
  have hget : ∀ name ∈ declaration.field.names,
      Option.Rel (fun value other => judge declaration.kind other = judge declaration.kind value)
        (members.get? name) (others.get? name) := by
    intro name hname
    have hsame := h name hname
    revert hsame
    cases members.get? name <;> cases others.get? name <;> intro hsame
    · exact .none
    · cases hsame
    · cases hsame
    · exact .some (Option.some.inj hsame)
  have hentry : Option.Rel (Json.Members.Agree fun _ value other =>
      judge declaration.kind other = judge declaration.kind value)
      (members.entry? declaration.field) (others.entry? declaration.field) :=
    Json.Members.rel_entry_of_rel_get hget
  unfold report
  revert hentry
  cases members.entry? declaration.field <;> cases others.entry? declaration.field <;> rintro ⟨⟩
  · rfl
  · next hagree =>
    obtain ⟨hname, hvalue⟩ := hagree
    dsimp only
    rw [hname, hvalue]

/-- The problems of a field are below one of its names. -/
theorem exists_of_mem_report {problem : Problem} (h : problem ∈ declaration.report judge members) :
    ∃ name ∈ declaration.field.names, ∃ path, problem.path = .key name :: path := by
  unfold report at h
  split at h
  · next name value hentry =>
    obtain ⟨inner, -, rfl⟩ := List.mem_map.1 h
    exact ⟨name, (Json.Members.mem_of_entry hentry).2, inner.path, rfl⟩
  · split at h
    · rw [List.mem_singleton.1 h]
      exact ⟨_, List.mem_cons_self, [], rfl⟩
    · cases h

end Declaration

/-! ## The order of members -/

section Order

variable {report report' : Json → List Problem}

theorem Json.ignores_isNull : Ignores isNull :=
  ignores_of_steps (fun _ _ _ _ => rfl) (fun _ _ _ _ _ _ => rfl) fun _ _ _ _ _ _ _ => rfl

theorem Json.ignores_nullableReport (h : Ignores report) : Ignores (nullableReport report) := by
  intro value other hvalue hkeys
  unfold nullableReport
  rw [h value other hvalue hkeys, ignores_isNull value other hvalue hkeys]

theorem Json.ignores_eitherReport (h : Ignores report) (h' : Ignores report')
    (first second : Text) : Ignores (eitherReport first report second report') := by
  intro value other hvalue hkeys
  unfold eitherReport
  rw [h value other hvalue hkeys, h' value other hvalue hkeys]

theorem Json.ignores_listReport (h : Ignores report) : Ignores (listReport report) := by
  refine ignores_of_steps (fun _ _ _ _ => rfl) ?_ fun _ _ _ _ _ _ _ => rfl
  intro value other hvalue hkeys front back
  simp only [listReport, List.zipIdx_append, List.zipIdx_cons, List.flatMap_append,
    List.flatMap_cons, h value other hvalue hkeys]

namespace Json.Members

variable {κ : Type} {judge : κ → Json → List Problem} {members others : Members}
  (checksNames : Bool) (declarations : List (Declaration κ))

/-- The problems of an object are those of the names that it has and of what these find. -/
theorem report_congr (hnames : (others.map Prod.fst).Perm (members.map Prod.fst))
    (hget : ∀ name kind,
      (others.get? name).map (judge kind) = (members.get? name).map (judge kind)) :
    others.report checksNames judge declarations =
      members.report checksNames judge declarations := by
  have hall (members : Members) :
      members.all (·.1.isUnicode) = (members.map Prod.fst).all Text.isUnicode := by
    rw [List.all_map]
    rfl
  unfold report
  rw [hall, hall, hnames.all_eq]
  congr 2
  exact funext fun declaration => declaration.report_congr fun name _ => hget name _

/-- They do not depend on the order of members, if those of what the members hold do not. -/
theorem ignores_partReport (hjudge : ∀ kind, Ignores (judge kind)) (name : Text) :
    Ignores (partReport name (·.report checksNames judge declarations)) := by
  refine ignores_of_steps ?_ (fun _ _ _ _ _ _ => rfl) ?_
  · intro members others hperm hkeys
    refine report_congr checksNames declarations (hperm.map Prod.fst).symm fun name kind => ?_
    exact congrArg _ (lookup_of_perm hperm hkeys)
  · intro value other hvalue hkeys front back key
    refine report_congr checksNames declarations ?_ fun name kind => ?_
    · rw [map_fst_replaced]
    · exact map_get?_replaced fun _ => hjudge kind value other hvalue hkeys

theorem report_of_reordered (hjudge : ∀ kind, Ignores (judge kind))
    (h : Reordered (.object members) (.object others)) (hkeys : (object members).HasDistinctKeys) :
    others.report checksNames judge declarations = members.report checksNames judge declarations :=
  ignores_partReport checksNames declarations hjudge [] _ _ h hkeys

end Json.Members

theorem Plain.ignores_report (kind : Plain) : Ignores kind.report := by
  induction kind with
  | any | text | flag | integer | floatingPoint | browser | dictionary =>
    exact ignores_of_steps (fun _ _ _ _ => rfl) (fun _ _ _ _ _ _ => rfl) fun _ _ _ _ _ _ _ => rfl
  | nullable kind ih => exact Json.ignores_nullableReport ih
  | list kind ih => exact Json.ignores_listReport ih
  | either first kind second other ih ih' => exact Json.ignores_eitherReport ih ih' first second

theorem Kind.ignores_report (checksNames : Bool) (kind : Kind) :
    Ignores (kind.report checksNames) := by
  induction kind with
  | plain kind => exact kind.ignores_report
  | part name declarations =>
    exact Json.Members.ignores_partReport checksNames declarations Plain.ignores_report name
  | nullable kind ih => exact Json.ignores_nullableReport ih
  | list kind ih => exact Json.ignores_listReport ih

end Order

/-! ## Names that are no Unicode text -/

theorem Problem.under_eq_under_iff {step step' : PathStep} {problem problem' : Problem} :
    problem.under step = problem'.under step' ↔ step = step' ∧ problem = problem' := by
  cases problem
  cases problem'
  simp only [under, Problem.mk.injEq, List.cons.injEq]
  tauto

theorem Problem.under_mem_map_iff {step : PathStep} {problem : Problem} {problems : List Problem} :
    problem.under step ∈ problems.map (under step) ↔ problem ∈ problems := by
  simp only [List.mem_map, under_eq_under_iff, true_and, exists_eq_right]

/-- The problems of an item of a list. -/
theorem Json.under_mem_listReport_iff {report : Json → List Problem} {items : List Json}
    {problem : Problem} {position : Nat} :
    problem.under (.index position) ∈ listReport report (.list items) ↔
      ∃ item, items[position]? = some item ∧ problem ∈ report item := by
  simp only [listReport, List.mem_flatMap, List.mem_map, Problem.under_eq_under_iff,
    PathStep.index.injEq, Prod.exists, List.mem_zipIdx_iff_getElem?]
  constructor
  · rintro ⟨item, _, hitem, _, hproblem, rfl, rfl⟩
    exact ⟨item, hitem, hproblem⟩
  · rintro ⟨item, hitem, hproblem⟩
    exact ⟨item, position, hitem, problem, hproblem, rfl, rfl⟩

namespace Json.Members

variable {κ : Type} {judge : κ → Json → List Problem} {declarations : List (Declaration κ)}
  {members : Members}

theorem report_of_haveUnicodeNames (h : members.HaveUnicodeNames) (checksNames : Bool) :
    members.report checksNames judge declarations =
      declarations.flatMap fun declaration => declaration.report judge members := by
  have hall : members.all (·.1.isUnicode) = true := List.all_eq_true.2 h
  rw [report, hall, Bool.not_true, Bool.and_false]
  rfl

theorem report_of_not_haveUnicodeNames (h : ¬ members.HaveUnicodeNames) :
    members.report true judge declarations = [⟨[], .unicode⟩] := by
  have hall : members.all (·.1.isUnicode) = false :=
    Bool.eq_false_iff.2 fun hall => h (List.all_eq_true.1 hall)
  rw [report, hall]
  rfl

/-- No problem of a field is one of the object as a whole. -/
theorem root_notMem_flatMap (mismatch : Mismatch) :
    ⟨[], mismatch⟩ ∉ declarations.flatMap fun declaration => declaration.report judge members := by
  intro hmem
  obtain ⟨declaration, -, hmem⟩ := List.mem_flatMap.1 hmem
  obtain ⟨_, -, _, hpath⟩ := Declaration.exists_of_mem_report hmem
  cases hpath

end Json.Members

namespace Kind

/-- All objects that a value of the kind is read from have Unicode names. -/
def IsNamed : Kind → Json → Prop
  | .plain _, _ => True
  | .part _ _, .object members => Json.Members.HaveUnicodeNames members
  | .part _ _, _ => True
  | .nullable kind, value => value.isNull = false → kind.IsNamed value
  | .list kind, .list items => ∀ item ∈ items, kind.IsNamed item
  | .list _, _ => True

/-- Then names are no problem. -/
theorem report_of_isNamed {kind : Kind} {value : Json} (h : kind.IsNamed value) :
    kind.report true value = kind.report false value := by
  induction kind generalizing value with
  | plain kind => rfl
  | part name declarations =>
    cases value with
    | object members =>
      show Json.Members.report members true _ _ = Json.Members.report members false _ _
      rw [Json.Members.report_of_haveUnicodeNames h, Json.Members.report_of_haveUnicodeNames h]
    | null | bool | number | text | list => rfl
  | nullable kind ih =>
    unfold report Json.nullableReport
    cases hnull : value.isNull with
    | true => rfl
    | false => rw [ih (h hnull)]
  | list kind ih =>
    cases value with
    | list items =>
      unfold report Json.listReport
      refine List.flatMap_congr fun entry hentry => ?_
      exact congrArg (List.map _) (ih (h entry.1 (List.fst_mem_of_mem_zipIdx hentry)))
    | null | bool | number | text | object => rfl

/-- If one has no Unicode names, a problem is reported that is none of a field. -/
theorem exists_of_not_isNamed {kind : Kind} {value : Json} (h : ¬ kind.IsNamed value) :
    ∃ problem ∈ kind.report true value, problem ∉ kind.report false value := by
  induction kind generalizing value with
  | plain kind => exact absurd trivial h
  | part name declarations =>
    cases value with
    | object members =>
      refine ⟨⟨[], .unicode⟩, ?_, Json.Members.root_notMem_flatMap .unicode⟩
      show _ ∈ Json.Members.report members true _ _
      rw [Json.Members.report_of_not_haveUnicodeNames h]
      exact List.mem_cons_self
    | null | bool | number | text | list => exact absurd trivial h
  | nullable kind ih =>
    obtain ⟨hnull, hvalue⟩ := not_forall.1 h
    obtain ⟨problem, hmem, hnot⟩ := ih hvalue
    refine ⟨problem, ?_, ?_⟩
    · rwa [report, Json.nullableReport, hnull]
    · rwa [report, Json.nullableReport, hnull]
  | list kind ih =>
    cases value with
    | list items =>
      obtain ⟨item, hitem⟩ := not_forall.1 h
      obtain ⟨hmem, hitem⟩ := not_forall.1 hitem
      obtain ⟨position, hposition⟩ := List.mem_iff_getElem?.1 hmem
      obtain ⟨problem, hproblem, hnot⟩ := ih hitem
      refine ⟨problem.under (.index position),
        Json.under_mem_listReport_iff.2 ⟨item, hposition, hproblem⟩, fun hfalse => ?_⟩
      obtain ⟨_, hsame, hproblem⟩ := Json.under_mem_listReport_iff.1 hfalse
      cases hposition.symm.trans hsame
      exact hnot hproblem
    | null | bool | number | text | object => exact absurd trivial h

end Kind

namespace Json.Members

/-- The names of an object are Unicode text, and so are those of the objects that its declared
fields are read from. -/
structure AreNamedBy (members : Members) (declarations : List (Declaration Kind)) : Prop where
  own : members.HaveUnicodeNames
  inFields : ∀ declaration ∈ declarations, ∀ entry,
    members.entry? declaration.field = some entry → declaration.kind.IsNamed entry.2

/-- Then names are no problem of the record. -/
theorem report_of_areNamedBy {members : Members} {declarations : List (Declaration Kind)}
    (h : members.AreNamedBy declarations) :
    members.report true (Kind.report true) declarations =
      declarations.flatMap fun declaration => declaration.report (Kind.report false) members := by
  rw [report_of_haveUnicodeNames h.own]
  refine List.flatMap_congr fun declaration hd => ?_
  unfold Declaration.report
  cases hentry : members.entry? declaration.field with
  | none => rfl
  | some entry =>
    exact congrArg (List.map _) (Kind.report_of_isNamed (h.inFields _ hd entry hentry))

/-- A name that two declared fields are read by shows that they are one. -/
theorem eq_of_mem_names {κ : Type} {declarations : List (Declaration κ)}
    (hdistinct : (declarations.flatMap (·.field.names)).Nodup) {declaration other : Declaration κ}
    (h : declaration ∈ declarations) (hother : other ∈ declarations) {name : Text}
    (hname : name ∈ declaration.field.names) (hname' : name ∈ other.field.names) :
    declaration = other := by
  by_contra hne
  have : Std.Symm (Function.onFun List.Disjoint fun d : Declaration κ => d.field.names) :=
    ⟨fun _ _ hdisjoint _ hmem hmem' => hdisjoint hmem' hmem⟩
  exact (List.nodup_flatMap.1 hdistinct).2.forall h hother hne hname hname'

/-- If a name is no Unicode text, a problem is reported that is none of a field. -/
theorem exists_of_not_areNamedBy {members : Members} {declarations : List (Declaration Kind)}
    (hdistinct : (declarations.flatMap (·.field.names)).Nodup)
    (h : ¬ members.AreNamedBy declarations) :
    ∃ problem ∈ members.report true (Kind.report true) declarations,
      problem ∉ declarations.flatMap fun declaration =>
        declaration.report (Kind.report false) members := by
  by_cases hown : members.HaveUnicodeNames
  · have hfield : ∃ declaration ∈ declarations, ∃ entry,
        members.entry? declaration.field = some entry ∧ ¬ declaration.kind.IsNamed entry.2 := by
      by_contra hnone
      push Not at hnone
      exact h ⟨hown, hnone⟩
    obtain ⟨declaration, hd, entry, hentry, hnot⟩ := hfield
    obtain ⟨problem, hproblem, hfalse⟩ := Kind.exists_of_not_isNamed hnot
    have hreport (checksNames : Bool) : declaration.report (Kind.report checksNames) members =
        (declaration.kind.report checksNames entry.2).map (Problem.under (.key entry.1)) := by
      rw [Declaration.report, hentry]
    refine ⟨problem.under (.key entry.1), ?_, fun hmem => ?_⟩
    · rw [report_of_haveUnicodeNames hown]
      exact List.mem_flatMap.2 ⟨declaration, hd, by rwa [hreport, Problem.under_mem_map_iff]⟩
    · -- a problem below the name of this field is one of this field
      obtain ⟨other, hother, hmem⟩ := List.mem_flatMap.1 hmem
      obtain ⟨name, hname, path, hpath⟩ := Declaration.exists_of_mem_report hmem
      cases hpath
      cases eq_of_mem_names hdistinct hd hother (mem_of_entry hentry).2 hname
      rw [hreport, Problem.under_mem_map_iff] at hmem
      exact hfalse hmem
  · refine ⟨⟨[], .unicode⟩, ?_, root_notMem_flatMap .unicode⟩
    rw [report_of_not_haveUnicodeNames hown]
    exact List.mem_cons_self

/-- Another value of one field changes the problems of this field, and no others. -/
theorem report_of_others {κ : Type} {judge : κ → Json → List Problem} {members others : Members}
    (hnames : others.HaveUnicodeNames) {front back : List (Declaration κ)}
    (hget : ∀ other ∈ front ++ back, ∀ name ∈ other.field.names,
      others.get? name = members.get? name) (declaration : Declaration κ) :
    others.report true judge (front ++ declaration :: back) =
      (front.flatMap fun other => other.report judge members) ++
        declaration.report judge others ++
        back.flatMap fun other => other.report judge members := by
  have hsame : ∀ other ∈ front ++ back, other.report judge others = other.report judge members :=
    fun other hother => other.report_congr fun name hname => by rw [hget other hother name hname]
  rw [List.forall_mem_append] at hsame
  rw [report_of_haveUnicodeNames hnames, List.flatMap_append, List.flatMap_cons,
    List.flatMap_congr hsame.1, List.flatMap_congr hsame.2, List.append_assoc]

/-- The problems of a record with declared fields. -/
def problems (members : Members) (declarations : List (Declaration Kind)) : List Problem :=
  members.report true (Kind.report true) declarations

end Json.Members

/-! ## Errors of records -/

namespace Recording

/-- What is expected of reading a record with declared fields: the error has the problems of all of
them. -/
structure ReportsFields {α : Type} (read : Json.Members → Checked α)
    (declarations : List (Declaration Kind)) (number : Nat) (members : Json.Members) : Prop where
  /-- The record is read if it has all that is declared of its fields and its names are Unicode
  text. -/
  accepted : (∃ value, readRecord read number members = .ok value) ↔
    members.AreNamedBy declarations ∧
      ∀ declaration ∈ declarations, declaration.IsMet (Kind.report false) members
  /-- If it is not, the error has its problems and the record as it is. -/
  rejected : ∀ error, readRecord read number members = .error error →
    error.record = members ∧ error.detail = "Malformed JSONL record on line " ++
      Text.ofNat number ++ ": " ++
        Text.joined "; " ((members.problems declarations).map Problem.text)
  /-- They are all problems of all fields, in the order of the declarations, if its names are
  Unicode text, and only then. -/
  complete : members.problems declarations =
    (declarations.flatMap fun declaration => declaration.report (Kind.report false) members) ↔
      members.AreNamedBy declarations
  /-- The order of its members makes no difference. -/
  ordered : ∀ others : Json.Members, Json.Reordered (.object members) (.object others) →
    others.problems declarations = members.problems declarations
  /-- Another value of a field, or none, replaces the problems of this field and leaves the
  others. -/
  repaired : ∀ front declaration back (others : Json.Members),
    declarations = front ++ declaration :: back → members.HaveUnicodeNames →
    others.HaveUnicodeNames →
    (∀ other ∈ front ++ back, ∀ name ∈ other.field.names,
      others.get? name = members.get? name) →
    ∃ before behind,
      members.problems declarations =
        before ++ declaration.report (Kind.report true) members ++ behind ∧
      others.problems declarations =
        before ++ declaration.report (Kind.report true) others ++ behind

variable {α : Type} {read : Json.Members → Checked α} {declarations : List (Declaration Kind)}

theorem exists_readRecord_iff (hread : ∀ members : Json.Members,
      (read members).Reports (members.report true (Kind.report true) declarations))
    (number : Nat) (members : Json.Members) :
    (∃ value, readRecord read number members = .ok value) ↔ members.problems declarations = [] := by
  rw [Json.Members.problems, ← (hread members).exists_valid_iff]
  unfold readRecord
  cases read members with
  | valid value => exact iff_of_true ⟨value, rfl⟩ ⟨value, rfl⟩
  | invalid found => exact iff_of_false (fun ⟨_, h⟩ => nomatch h) fun ⟨_, h⟩ => nomatch h

theorem reportsFields_of_reports (hread : ∀ members : Json.Members,
      (read members).Reports (members.report true (Kind.report true) declarations))
    (hdistinct : (declarations.flatMap (·.field.names)).Nodup) (number : Nat)
    {members : Json.Members} (hkeys : (Json.object members).HasDistinctKeys) :
    ReportsFields read declarations number members where
  accepted := by
    rw [exists_readRecord_iff hread]
    by_cases hnamed : members.AreNamedBy declarations
    · rw [Json.Members.problems, Json.Members.report_of_areNamedBy hnamed,
        List.flatMap_eq_nil_iff, and_iff_right hnamed]
      exact forall₂_congr fun declaration _ => Declaration.report_eq_nil_iff
    · obtain ⟨problem, hproblem, -⟩ := Json.Members.exists_of_not_areNamedBy hdistinct hnamed
      exact iff_of_false (List.ne_nil_of_mem hproblem) fun h => hnamed h.1
  rejected error h := by
    unfold readRecord at h
    split at h
    · cases h
    · next found hinvalid =>
      cases h
      have hfound : found = members.problems declarations := by
        rw [Json.Members.problems, ← (hread members).eq_problems, hinvalid]
        rfl
      exact ⟨rfl, by rw [← hfound]; rfl⟩
  complete := by
    refine ⟨fun hsame => by_contra fun hnot => ?_, Json.Members.report_of_areNamedBy⟩
    obtain ⟨problem, hproblem, hnone⟩ := Json.Members.exists_of_not_areNamedBy hdistinct hnot
    exact hnone (hsame ▸ hproblem)
  ordered others h :=
    Json.Members.report_of_reordered true declarations (Kind.ignores_report true) h hkeys
  repaired := by
    rintro front declaration back others rfl hnames hnames' hget
    exact ⟨_, _, Json.Members.report_of_others hnames (fun _ _ _ _ => rfl) declaration,
      Json.Members.report_of_others hnames' hget declaration⟩

/-- The errors of the header and of the events have all problems of all fields, unless a name is no
Unicode text. -/
theorem reportsFields_of_decode {line : Text} {members : Json.Members}
    (h : Json.decode line = .ok (.object members)) (number : Nat) :
    ReportsFields Header.read Header.declarations number members ∧
      ReportsFields Event.read Event.declarations number members := by
  have hkeys := Json.hasDistinctKeys_of_decode h
  exact ⟨reportsFields_of_reports Header.reports_read (by decide) number hkeys,
    reportsFields_of_reports Event.reports_read (by decide) number hkeys⟩

/-- A line with problems of four fields. -/
def faultyLine : Text :=
  "\x7b\"signals\": [\x7b\x7d, 3], \"files\": 1, \"position\": \x7b\x7d\x7d"

/-- The members of the object on it. -/
def faultyMembers : Json.Members :=
  [("signals", .list [.object [], .number (.int 3)]), ("files", .number (.int 1)),
    ("position", .object [])]

/-- Its problems come in the order in which the fields are declared. -/
theorem reportsFields_of_decode_faulty : Json.decode faultyLine = .ok (.object faultyMembers) ∧
    ReportsFields Header.read Header.declarations 2 faultyMembers ∧
    ReportsFields Event.read Event.declarations 2 faultyMembers ∧
    (faultyMembers.problems Event.declarations).map Problem.text =
      ["name: Field required", "position.x: Field required", "position.y: Field required",
        "files.list[str]: Input should be a valid list",
        "files.str: Input should be a valid string", "signals.0.name: Field required",
        "signals.1: Input should be a valid dictionary or instance of Signal"] := by
  have hdecode : Json.decode faultyLine = .ok (.object faultyMembers) := by
    refine Json.decode_of_tokens (by decide +kernel) ?_
    simp only [faultyMembers, Json.IsWritable, Json.MembersAreWritable, Json.ItemsAreWritable]
    decide
  obtain ⟨hheader, hevent⟩ := reportsFields_of_decode hdecode 2
  exact ⟨hdecode, hheader, hevent, by decide +kernel⟩

/-- A member that is no field and has a surrogate for a name keeps a record from being read that has
all that is declared of its fields. -/
theorem not_accepted_surrogateName : ∃ members,
    Json.decode "\x7b\"name\": \"closePage\", \"\\ud83d\": 1\x7d" = .ok (.object members) ∧
      (∀ declaration ∈ Event.declarations, declaration.IsMet (Kind.report false) members) ∧
      ∃ error, readRecord Event.read 2 members = .error error ∧
        error.detail =
          "Malformed JSONL record on line 2: <root>: Input should be a valid string, " ++
            "unable to parse raw data as a unicode string" := by
  refine ⟨[("name", .text "closePage"), ([.surrogate 61], .number (.int 1))],
    Json.decode_of_tokens (by decide +kernel) ?_, ?_, _, rfl, by decide +kernel⟩
  · simp only [Json.IsWritable, Json.MembersAreWritable]
    decide
  have hnone : (Event.declarations.flatMap fun declaration => declaration.report (Kind.report false)
      [("name", .text "closePage"), ([.surrogate 61], .number (.int 1))]) = [] := by decide +kernel
  exact fun declaration hd =>
    Declaration.report_eq_nil_iff.1 (List.flatMap_eq_nil_iff.1 hnone declaration hd)

end Recording

end Playback
