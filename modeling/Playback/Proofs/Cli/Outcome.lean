import Playback.Cli.Outcome
import Playback.Proofs.Text.ControlSequence
import Playback.Proofs.Text.Utf8

/-!
# What is printed of messages

* `Outcome.printing_of_isUnicode`: messages that have bytes are all printed, without their control
  sequences. `Outcome.printing_of_not_isUnicode`: the first one that has none ends the command.
* `Outcome.printing_eq_flatten_iff`: messages are printed as they are exactly if each of them is
  printed whole.
-/

namespace Playback

namespace Outcome

section Messages

variable {front back messages : List Text} {message : Text}

/-- Messages that have bytes are printed, whatever comes after them. -/
theorem printed_append (h : ∀ message ∈ front, message.isUnicode) (back : List Text) :
    printed (front ++ back) =
      (front.flatMap Text.withoutControlSequences ++ (printed back).1, (printed back).2) := by
  induction front with
  | nil => rfl
  | cons message front ih =>
    obtain ⟨hmessage, hfront⟩ := List.forall_mem_cons.1 h
    have hbytes : Utf8.unencodable? message.withoutControlSequences = none := by
      rw [Utf8.unencodable?_eq_none_iff, message.isUnicode_withoutControlSequences, hmessage]
    simp only [List.cons_append, printed, hbytes, ih hfront, List.flatMap_cons,
      List.append_assoc]

/-- Messages that have bytes are all printed, without their control sequences. -/
theorem printing_of_isUnicode (h : ∀ message ∈ messages, message.isUnicode) (exitCode : Nat)
    (log : Log) : printing exitCode messages log =
      { exitCode, output := messages.flatMap Text.withoutControlSequences, log } := by
  have hprinted := printed_append h []
  rw [List.append_nil] at hprinted
  simp only [printing, hprinted, printed, List.append_nil]

/-- The first message that has no bytes ends the command, after the messages in front of it. -/
theorem printing_of_not_isUnicode (h : ∀ message ∈ front, message.isUnicode)
    (hmessage : ¬ message.isUnicode) (back : List Text) (exitCode : Nat) (log : Log) :
    (printing exitCode (front ++ message :: back) log).exitCode = 1 ∧
      (printing exitCode (front ++ message :: back) log).output =
        front.flatMap Text.withoutControlSequences := by
  have hbytes : Utf8.unencodable? message.withoutControlSequences ≠ none := by
    rwa [Ne, Utf8.unencodable?_eq_none_iff, message.isUnicode_withoutControlSequences]
  obtain ⟨fault, hfault⟩ := Option.ne_none_iff_exists'.1 hbytes
  have hprinted : printed (front ++ message :: back) =
      (front.flatMap Text.withoutControlSequences, some fault) := by
    rw [printed_append h]
    simp only [printed, hfault, List.append_nil]
  rw [printing, hprinted]
  exact ⟨rfl, rfl⟩

/-- A message that has bytes and no control sequences is printed as it is. -/
theorem printing_eq (hescape : .char '\x1b' ∉ message) (hunicode : message.isUnicode)
    (exitCode : Nat) (log : Log) :
    printing exitCode [message] log = { exitCode, output := message, log } := by
  rw [printing_of_isUnicode (List.forall_mem_singleton.2 hunicode), List.flatMap_singleton,
    Text.withoutControlSequences_eq hescape]

theorem flatMap_withoutControlSequences_sublist (messages : List Text) :
    (messages.flatMap Text.withoutControlSequences).Sublist messages.flatten := by
  induction messages with
  | nil => exact .slnil
  | cons message messages ih => exact message.withoutControlSequences_sublist.append ih

/-- Taking control sequences out of messages changes nothing only if none of them has any. -/
theorem flatMap_withoutControlSequences_eq_iff :
    messages.flatMap Text.withoutControlSequences = messages.flatten ↔
      ∀ message ∈ messages, message.withoutControlSequences = message := by
  induction messages with
  | nil => simp
  | cons message messages ih =>
    rw [List.flatMap_cons, List.flatten_cons, List.forall_mem_cons, ← ih]
    constructor
    · intro h
      have hfirst := message.withoutControlSequences_sublist.length_le
      have hrest := (flatMap_withoutControlSequences_sublist messages).length_le
      -- neither part gets longer and together they stay as long, so each does
      have hlength := congrArg List.length h
      simp only [List.length_append] at hlength
      exact List.append_inj h (by omega)
    · rintro ⟨hfirst, hrest⟩
      rw [hfirst, hrest]

/-- All messages are printed as they are exactly if each is printed whole. -/
theorem printing_eq_flatten_iff (log : Log) :
    ((printing 0 messages log).exitCode = 0 ∧
      (printing 0 messages log).output = messages.flatten) ↔
        ∀ message ∈ messages, message.IsPrintedWhole := by
  by_cases hunicode : ∀ message ∈ messages, message.isUnicode
  · rw [printing_of_isUnicode hunicode]
    refine ⟨fun h message hmessage => ⟨hunicode message hmessage, ?_⟩, fun h => ⟨rfl, ?_⟩⟩
    · exact flatMap_withoutControlSequences_eq_iff.1 h.2 message hmessage
    · exact flatMap_withoutControlSequences_eq_iff.2 fun message hmessage =>
        (h message hmessage).withoutControlSequences_eq
  · refine ⟨fun h => ?_, fun h => absurd (fun m hm => (h m hm).isUnicode) hunicode⟩
    -- the first message without bytes gives another exit code
    have hfind : messages.find? (!·.isUnicode) ≠ none := by
      rw [Ne, List.find?_eq_none]
      simpa using hunicode
    obtain ⟨message, hfound⟩ := Option.ne_none_iff_exists'.1 hfind
    obtain ⟨hmessage, front, back, rfl, hfront⟩ := List.find?_eq_some_iff_append.1 hfound
    have hcode := (printing_of_not_isUnicode (by simpa using hfront) (by simpa using hmessage)
      back 0 log).1
    rw [hcode] at h
    exact absurd h.1 Nat.one_ne_zero

end Messages

end Outcome

end Playback
