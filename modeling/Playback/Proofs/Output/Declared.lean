import Playback.Proofs.Event.Snippet
import Playback.Proofs.Program
import Playback.Proofs.Recording.Declared
import Playback.Proofs.Recording.Written

/-!
# Programs of records that agree on their fields

Only the fields of a recording decide its program: neither what the records have besides, nor the
order of their members, nor the context options can be seen in it. But a record that has a name that
is no Unicode text is no recording at all.

* `Event.IsLike.snippet`, `Header.IsLike.program`: events that are alike have the same snippet, and
  headers that are alike the same program around the snippets.
* `Text.HoldsRecords`: the objects on the lines of a text. `Text.HoldsRecords.parse_eq_ok_iff`: when
  the text is a recording, said of these objects.
* `programOf_of_agree`: texts whose records agree have the same program if the names are Unicode
  text, and otherwise the other text has none.
-/

namespace Playback

/-! ## Events and headers -/

namespace Event

variable {event event' : Event}

theorem hasLocator_iff {locator : Locator} : event.HasLocator locator ↔
    (Locator.ofTarget event.selector event.locator).map Prod.fst = .ok locator := by
  unfold HasLocator
  cases Locator.ofTarget event.selector event.locator with
  | error fault => simp [Except.map]
  | ok found => simp [Except.map, Prod.ext_iff]

theorem IsLike.hasLocator_iff (h : event.IsLike event') {locator : Locator} :
    event'.HasLocator locator ↔ event.HasLocator locator := by
  have hselector : event'.selector = event.selector := by rw [h.rest]
  rw [Event.hasLocator_iff, Event.hasLocator_iff, hselector, h.locator]

theorem IsLike.positionKeyword (h : event.IsLike event') :
    event'.positionKeyword = event.positionKeyword := by
  have hkeyword (event : Event) : event.positionKeyword =
      (event.position.map Position.expression).toList.map (("position" : Text), ·) := by
    unfold Event.positionKeyword
    cases event.position <;> rfl
  rw [hkeyword, hkeyword, h.position]

theorem IsLike.interaction_expression (h : event.IsLike event') (action : Interaction)
    (target : Expression) : action.expression event' target = action.expression event target := by
  have hkeyword := h.positionKeyword
  rw [h.rest] at hkeyword ⊢
  cases action with
  | click =>
    unfold Interaction.expression Event.clickKeywords
    rw [hkeyword]
    rfl
  | hover =>
    unfold Interaction.expression
    rw [hkeyword]
  | fill | press | check | uncheck | select | setInputFiles => rfl

/-- Events that are alike have the same snippet. -/
theorem IsLike.snippet (h : event.IsLike event') {snippet : Snippet} :
    event'.snippet.result = .ok snippet ↔ event.snippet.result = .ok snippet := by
  have hname : event'.name = event.name := by rw [h.rest]
  have hpage : event'.page = event.page := by
    rw [h.rest]
    rfl
  have hroot : event'.root = event.root := by
    rw [h.rest]
    rfl
  have hstatements (action : PageAction) : action.statements event' = action.statements event := by
    rw [h.rest]
    rfl
  have hassertion (action : Assertion) (target : Expression) :
      action.expression event' target = action.expression event target := by
    rw [h.rest]
    rfl
  simp only [snippet_eq_ok_iff, actionSnippet_eq_ok_iff, HasSignals, hname, hpage, hroot,
    hstatements, hassertion, h.interaction_expression, h.hasLocator_iff, h.signals]

end Event

/-- Around the same snippets, headers that are alike make the same program. -/
theorem Header.IsLike.program {header header' : Header} (h : header.IsLike header')
    (format : OutputFormat) (snippets : List Snippet) :
    format.program header' snippets = format.program header snippets := by
  have hscopes : header'.scopes = header.scopes := by
    unfold scopes isHeadless
    rw [h.browser, h.headless]
  have hlines : header'.scopeLines = header.scopeLines := by
    unfold scopeLines
    rw [hscopes]
  have henclose (depth : Nat) : header'.enclose depth snippets = header.enclose depth snippets := by
    unfold enclose
    rw [hlines, hscopes]
  unfold OutputFormat.program
  rw [henclose, henclose]

/-! ## Texts -/

/-- The lines of the text that are not blank are the object of a header and those of events. -/
def Text.HoldsRecords (text : Text) (header : Json.Members) (events : List Json.Members) : Prop :=
  ∃ headerLine eventLines, recordLinesOf text.lines = headerLine :: eventLines ∧
    DecodesTo headerLine header ∧ List.Forall₂ DecodesTo eventLines events

section Records

variable {text : Text} {header : Json.Members} {events : List Json.Members}

theorem readsAs_iff {α : Type} {read : Json.Members → Checked α} {line : Text}
    {members : Json.Members} (h : DecodesTo line members) {value : α} :
    ReadsAs read line value ↔ read members = .valid value := by
  constructor
  · rintro ⟨members', h', hread⟩
    cases h.symm.trans h'
    exact hread
  · exact fun hread => ⟨members, h, hread⟩

theorem forall₂_readsAs_iff {α : Type} {read : Json.Members → Checked α} {lines : List Text}
    {records : List Json.Members} (h : List.Forall₂ DecodesTo lines records) {values : List α} :
    List.Forall₂ (ReadsAs read) lines values ↔
      List.Forall₂ (fun members value => read members = .valid value) records values := by
  induction h generalizing values with
  | nil => rw [List.forall₂_nil_left_iff, List.forall₂_nil_left_iff]
  | cons hfirst _ ih =>
    rw [List.forall₂_cons_left_iff, List.forall₂_cons_left_iff]
    simp only [readsAs_iff hfirst, ih]

/-- The text is a recording if the objects are a header and events, of which there are some. -/
theorem Text.HoldsRecords.parse_eq_ok_iff (h : text.HoldsRecords header events)
    {recording : Recording} :
    Recording.parse text = .ok recording ↔ events ≠ [] ∧
      Header.read header = .valid recording.header ∧
      List.Forall₂ (fun members event => Event.read members = .valid event) events
        recording.events := by
  obtain ⟨headerLine, eventLines, hlines, hheader, hevents⟩ := h
  have hempty : eventLines ≠ [] ↔ events ≠ [] := by
    rw [← List.length_pos_iff, ← List.length_pos_iff, hevents.length_eq]
  rw [Recording.parse_eq_ok_iff, ← readsAs_iff hheader, ← forall₂_readsAs_iff hevents, ← hempty]
  constructor
  · rintro ⟨_, _, hlines', hsome, hh, he⟩
    obtain ⟨rfl, rfl⟩ := List.cons_eq_cons.1 (hlines.symm.trans hlines')
    exact ⟨hsome, hh, he⟩
  · rintro ⟨hsome, hh, he⟩
    exact ⟨_, _, hlines, hsome, hh, he⟩

/-- No object of a text has a key twice. -/
theorem Text.HoldsRecords.hasDistinctKeys (h : text.HoldsRecords header events) :
    (Json.object header).HasDistinctKeys ∧
      ∀ members ∈ events, (Json.object members).HasDistinctKeys := by
  obtain ⟨headerLine, eventLines, -, hheader, hevents⟩ := h
  exact ⟨Json.hasDistinctKeys_of_decode hheader,
    forall_right_of_forall₂ hevents fun _ _ => Json.hasDistinctKeys_of_decode⟩

/-- Records that are written one on each line are those that the text holds. -/
theorem Text.holdsRecords_written {gap : Text} (hgap : ∀ p ∈ gap, p = .char ' ')
    (h : ∀ record ∈ header :: events, (Json.object record).IsWritable)
    (hend : ∀ record ∈ header :: events, (Json.object record).hasLineEnd = false) :
    Text.HoldsRecords (Recording.written gap (header :: events)) header events := by
  have hdecodes (record : Json.Members) (hmem : record ∈ header :: events) :
      DecodesTo (Recording.recordLine gap record) record :=
    Json.decode_written (fun p hp => hgap p hp ▸ rfl) (h record hmem)
  refine ⟨_, events.map (Recording.recordLine gap), ?_, hdecodes header List.mem_cons_self,
    List.forall₂_map_left_iff.2 ?_⟩
  · rw [Recording.lines_written hgap h hend, Recording.recordLinesOf_map, List.map_cons]
  · exact List.forall₂_same.2 fun record hmem => hdecodes record (List.mem_cons_of_mem _ hmem)

end Records

/-- Events of records that agree are read alike, if the other records are named by Unicode text. -/
theorem Event.exists_readAll_of_agree {records records' : List Json.Members} {events : List Event}
    (h : List.Forall₂ RecordsAgree records records')
    (hkeys : ∀ members ∈ records, (Json.object members).HasDistinctKeys)
    (hnamed : ∀ members ∈ records', members.AreNamed parts)
    (hread : List.Forall₂ (fun members event => read members = .valid event) records events) :
    ∃ events', List.Forall₂ (fun members event => read members = .valid event) records' events' ∧
      List.Forall₂ IsLike events events' :=
  exists_forall₂_of_forall₂ h hkeys hnamed hread fun _ _ _ hagree hkeys hnamed =>
    read_of_agree hagree hkeys hnamed

theorem Event.areNamed_of_readAll {records : List Json.Members} {events : List Event}
    (h : List.Forall₂ (fun members event => read members = .valid event) records events) :
    ∀ members ∈ records, members.AreNamed parts :=
  forall_left_of_forall₂ h fun _ _ => areNamed_of_read

theorem Event.HaveSnippets.of_like {events events' : List Event} {snippets : List Snippet}
    (h : List.Forall₂ IsLike events events') (hsnippets : HaveSnippets events snippets) :
    HaveSnippets events' snippets := by
  obtain ⟨snippets', hsnippets', hsame⟩ : ∃ snippets', HaveSnippets events' snippets' ∧
      List.Forall₂ Eq snippets snippets' :=
    exists_forall₂_of_forall₂ h (fun _ _ => trivial) (fun _ _ => trivial) hsnippets
      fun _ _ snippet hlike _ _ hsnippet => ⟨snippet, hlike.snippet.2 hsnippet, rfl⟩
  rw [List.forall₂_eq_eq_eq] at hsame
  rwa [hsame]

/-- Where a text has a program, a text whose records agree on the fields has the same one if all its
names are Unicode text, and none otherwise. -/
theorem programOf_of_agree {text text' : Text} {header header' : Json.Members}
    {events events' : List Json.Members} (h : text.HoldsRecords header events)
    (h' : text'.HoldsRecords header' events') (hheader : Header.RecordsAgree header header')
    (hevents : List.Forall₂ Event.RecordsAgree events events') {formatName output : Text}
    (houtput : (programOf text formatName).result = .ok output) (output' : Text) :
    (programOf text' formatName).result = .ok output' ↔
      output' = output ∧ header'.AreNamed Header.parts ∧
        ∀ members ∈ events', members.AreNamed Event.parts := by
  obtain ⟨format, recording, snippets, hformat, hparse, hsnippets, rfl⟩ :=
    programOf_eq_ok_iff.1 houtput
  obtain ⟨hsome, hread, hreadAll⟩ := h.parse_eq_ok_iff.1 hparse
  obtain ⟨hheaderKeys, heventKeys⟩ := h.hasDistinctKeys
  have hsame (hnamed : header'.AreNamed Header.parts)
      (hallNamed : ∀ members ∈ events', members.AreNamed Event.parts) :
      (programOf text' formatName).result = .ok (format.program recording.header snippets) := by
    obtain ⟨other, hother, hlike⟩ := Header.read_of_agree hheader hheaderKeys hnamed hread
    obtain ⟨others, hothers, hlikes⟩ :=
      Event.exists_readAll_of_agree hevents heventKeys hallNamed hreadAll
    have hsome' : events' ≠ [] := by
      rw [← List.length_pos_iff, ← hevents.length_eq, List.length_pos_iff]
      exact hsome
    exact programOf_eq_ok_iff.2 ⟨format, ⟨other, others⟩, snippets, hformat,
      h'.parse_eq_ok_iff.2 ⟨hsome', hother, hothers⟩, hsnippets.of_like hlikes,
      (hlike.program format snippets).symm⟩
  constructor
  · intro houtput'
    obtain ⟨_, other, _, -, hparse', -, -⟩ := programOf_eq_ok_iff.1 houtput'
    obtain ⟨-, hread', hreadAll'⟩ := h'.parse_eq_ok_iff.1 hparse'
    have hnamed := Header.areNamed_of_read hread'
    have hallNamed := Event.areNamed_of_readAll hreadAll'
    exact ⟨Except.ok.inj (houtput'.symm.trans (hsame hnamed hallNamed)), hnamed, hallNamed⟩
  · rintro ⟨rfl, hnamed, hallNamed⟩
    exact hsame hnamed hallNamed

/-! ## Two texts with one program, and one without -/

/-- A header with all its fields. -/
def filledHeader : Json.Members :=
  [("browserName", .text "firefox"), ("launchOptions", .object [("headless", .bool false)]),
    ("contextOptions", .object [])]

/-- It with members that are no fields, other context options, and in another order. -/
def rearrangedHeader : Json.Members :=
  [("session", .null), ("contextOptions", .object [("locale", .text "en")]),
    ("launchOptions", .object [("slowMo", .number (.int 5)), ("headless", .bool false)]),
    ("browserName", .text "firefox")]

/-- The description of a button, with options. -/
def buttonMembers : Json.Members :=
  [("kind", .text "role"), ("body", .text "button"),
    ("options", .object [("name", .text "Go"), ("exact", .bool true)])]

/-- A click with a description of its target, a position and a signal. -/
def filledEvent : Json.Members :=
  [("name", .text "click"), ("locator", .object buttonMembers),
    ("position", .object [("x", .number (.int 1)), ("y", .number (.int 2))]),
    ("signals", .list [.object [("name", .text "popup")]])]

/-- It with members that are no fields, and in another order. -/
def rearrangedEvent : Json.Members :=
  [("signals", .list [.object [("url", .null), ("name", .text "popup")]]),
    ("position", .object [("y", .number (.int 2)), ("x", .number (.int 1))]),
    ("wait", .bool true),
    ("locator", .object [("options", .object [("exact", .bool true), ("name", .text "Go")]),
      ("body", .text "button"), ("kind", .text "role")]),
    ("name", .text "click")]

theorem recordsAgree_rearrangedHeader : Header.RecordsAgree filledHeader rearrangedHeader := by
  have hlaunch : Json.SameFields [LaunchOptions.headlessField]
      (.object [("headless", .bool false)])
      (.object [("slowMo", .number (.int 5)), ("headless", .bool false)]) :=
    .object ⟨_, .refl _, .cons ⟨rfl, rfl⟩ .nil⟩
  refine ⟨filledHeader.reverse, (List.reverse_perm _).symm, ?_⟩
  exact .cons ⟨rfl, .contextOptions (by decide) _ _⟩ <|
    .cons ⟨rfl, .launchOptions (by decide) hlaunch⟩ <| .cons ⟨rfl, .refl _ _⟩ .nil

theorem recordsAgree_rearrangedEvent : Event.RecordsAgree filledEvent rearrangedEvent := by
  have hlocator : Json.Rearranged (.object buttonMembers)
      (.object [("options", .object [("exact", .bool true), ("name", .text "Go")]),
        ("body", .text "button"), ("kind", .text "role")]) :=
    .trans (.keys (List.reverse_perm _).symm) (@Json.Rearranged.options _ _ [] _ (.swap _ _ []))
  have hposition : Json.SameFields [Position.xField, Position.yField]
      (.object [("x", .number (.int 1)), ("y", .number (.int 2))])
      (.object [("y", .number (.int 2)), ("x", .number (.int 1))]) :=
    .object ⟨_, .swap _ _ [], .cons ⟨rfl, rfl⟩ (.cons ⟨rfl, rfl⟩ .nil)⟩
  have hsignal : Json.SameFields [Signal.nameField] (.object [("name", .text "popup")])
      (.object [("url", .null), ("name", .text "popup")]) :=
    .object ⟨_, .refl _, .cons ⟨rfl, rfl⟩ .nil⟩
  refine ⟨filledEvent.reverse, (List.reverse_perm _).symm, ?_⟩
  exact .cons ⟨rfl, .signals (by decide) (.cons hsignal .nil)⟩ <|
    .cons ⟨rfl, .position (by decide) hposition⟩ <|
      .cons ⟨rfl, .locator (by decide) hlocator⟩ <| .cons ⟨rfl, .refl _ _⟩ .nil

theorem areNamed_rearrangedHeader : rearrangedHeader.AreNamed Header.parts := by
  refine ⟨by unfold Json.Members.HaveUnicodeNames; decide, List.forall_mem_singleton.2 ?_⟩
  intro entry hentry
  cases hentry
  show ∀ member ∈ _, _
  decide

theorem areNamed_rearrangedEvent : rearrangedEvent.AreNamed Event.parts := by
  refine ⟨by unfold Json.Members.HaveUnicodeNames; decide, ?_⟩
  simp only [Event.parts, List.forall_mem_cons]
  refine ⟨?_, ?_, List.forall_mem_nil _⟩
  · intro entry hentry
    cases hentry
    show ∀ member ∈ _, _
    decide
  · intro entry hentry
    cases hentry
    refine List.forall_mem_singleton.2 ?_
    show ∀ member ∈ _, _
    decide

/-- The program of a header and an event is the program of the rearranged ones. -/
theorem programOf_of_agree_rearranged : ∃ text text' output,
    text.HoldsRecords filledHeader [filledEvent] ∧
      text'.HoldsRecords rearrangedHeader [rearrangedEvent] ∧
      Header.RecordsAgree filledHeader rearrangedHeader ∧
      Event.RecordsAgree filledEvent rearrangedEvent ∧
      (programOf text "script").result = .ok output ∧
      (programOf text' "script").result = .ok output := by
  have hspace : ∀ p ∈ (" " : Text), p = .char ' ' := by decide
  have hwritable : ∀ record ∈ [filledHeader, filledEvent], (Json.object record).IsWritable := by
    refine List.forall_mem_cons.2 ⟨?_, List.forall_mem_singleton.2 ?_⟩ <;>
      simp only [filledHeader, filledEvent, buttonMembers, Json.IsWritable,
        Json.MembersAreWritable, Json.ItemsAreWritable] <;>
      decide
  have hwritable' : ∀ record ∈ [rearrangedHeader, rearrangedEvent],
      (Json.object record).IsWritable := by
    refine List.forall_mem_cons.2 ⟨?_, List.forall_mem_singleton.2 ?_⟩ <;>
      simp only [rearrangedHeader, rearrangedEvent, Json.IsWritable, Json.MembersAreWritable,
        Json.ItemsAreWritable] <;>
      decide
  have htext := Text.holdsRecords_written hspace hwritable (by decide)
  have htext' := Text.holdsRecords_written hspace hwritable' (by decide)
  have hsome : (programOf (Recording.written " " [filledHeader, filledEvent])
      "script").result.toOption.isSome := by decide +kernel
  obtain ⟨output, houtput⟩ := Option.isSome_iff_exists.1 hsome
  rw [toOption_eq_some_iff] at houtput
  refine ⟨_, _, output, htext, htext', recordsAgree_rearrangedHeader,
    recordsAgree_rearrangedEvent, houtput, ?_⟩
  exact (programOf_of_agree htext htext' recordsAgree_rearrangedHeader
    (.cons recordsAgree_rearrangedEvent .nil) houtput output).2
      ⟨rfl, areNamed_rearrangedHeader, List.forall_mem_singleton.2 areNamed_rearrangedEvent⟩

/-- An event that closes the page. -/
def closingEvent : Json.Members := [("name", .text "closePage")]

/-- It with a member that is no field and has a surrogate for a name. -/
def surrogateEvent : Json.Members :=
  [("name", .text "closePage"), ([.surrogate 61], .number (.int 1))]

/-- The text of an empty header and the event that closes the page. -/
def closingText : Text := "\x7b\x7d\n\x7b\"name\": \"closePage\"\x7d"

/-- The text of an empty header and the event with the surrogate. -/
def surrogateText : Text := "\x7b\x7d\n\x7b\"name\": \"closePage\", \"\\ud83d\": 1\x7d"

/-- A member that is no field keeps a text from being a recording if its name is a surrogate. -/
theorem not_programOf_surrogateName :
    closingText.HoldsRecords [] [closingEvent] ∧ surrogateText.HoldsRecords [] [surrogateEvent] ∧
      Header.RecordsAgree [] [] ∧ Event.RecordsAgree closingEvent surrogateEvent ∧
      (programOf closingText "body").result = .ok "pg.close()" ∧
      ∀ output, (programOf surrogateText "body").result ≠ .ok output := by
  have hheader : DecodesTo "\x7b\x7d" [] := by
    refine Json.decode_of_tokens (by decide +kernel) ?_
    simp only [Json.IsWritable, Json.MembersAreWritable]
    decide
  have hclosing : DecodesTo "\x7b\"name\": \"closePage\"\x7d" closingEvent := by
    refine Json.decode_of_tokens (by decide +kernel) ?_
    simp only [closingEvent, Json.IsWritable, Json.MembersAreWritable]
    decide
  have hsurrogate :
      DecodesTo "\x7b\"name\": \"closePage\", \"\\ud83d\": 1\x7d" surrogateEvent := by
    refine Json.decode_of_tokens (by decide +kernel) ?_
    simp only [surrogateEvent, Json.IsWritable, Json.MembersAreWritable]
    decide
  refine ⟨⟨_, [_], by decide +kernel, hheader, .cons hclosing .nil⟩,
    ⟨_, [_], by decide +kernel, hheader, .cons hsurrogate .nil⟩, ⟨_, .refl _, .nil⟩,
    ⟨_, .refl _, .cons ⟨rfl, .refl _ _⟩ .nil⟩, ?_, fun output houtput => ?_⟩
  · rw [← toOption_eq_some_iff]
    decide +kernel
  · have hnone : (programOf surrogateText "body").result.toOption = none := by decide +kernel
    rw [houtput] at hnone
    cases hnone

end Playback
