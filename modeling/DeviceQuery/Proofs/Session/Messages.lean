import DeviceQuery.Proofs.Session.Trail
import DeviceQuery.Proofs.Text.Quoted

/-!
# The messages of sentences

The message of a sentence tells its words, and whether a stream was to be opened with them
(`message_inj`), and it stands on one line whatever the words hold (`unbroken_message`). So the
sentence log of a session tells one by one what was handed to the link: nothing that a caller puts
into a word can pass for another sentence or for a record of its own (`messages_tell_sentences`).
-/

namespace DeviceQuery

/-- The message of a sentence that is written, or that a stream is to be opened with. -/
def sentenceMessage (streamed : Bool) (words : List String) : String :=
  if streamed then (Chain.streamSentenceRecord words).message else (sentenceRecord words).message

/-- A stream is to be opened with the sentence. -/
def Handover.opens : Handover → Bool
  | write .. | removal .. => false
  | stream .. => true

/-- The messages of the sentence log for some steps, in order. -/
def Session.messages (s : Session) (steps : List Step) : List String :=
  ((s.log steps).filter fun r => r.target = .sentence).map Log.Record.message

/-- What a stream is opened with starts with a letter, and what is written with a bracket. -/
theorem message_stream_ne (words others : List String) :
    sentenceMessage true words ≠ sentenceMessage false others := by
  intro same
  have heads := congrArg (fun s => s.toList.head?) same
  have bracket : (sentenceMessage false others).toList.head? = some '[' :=
    Text.head?_quotedList others
  have letter : (sentenceMessage true words).toList.head? = some 's' := by
    simp [sentenceMessage, Chain.streamSentenceRecord]
  rw [letter, bracket] at heads
  exact absurd heads (by decide)

theorem message_inj {streamed other : Bool} {words others : List String} :
    sentenceMessage streamed words = sentenceMessage other others ↔
      (streamed, words) = (other, others) := by
  rw [Prod.mk.injEq]
  cases streamed <;> cases other
  · simp [sentenceMessage, sentenceRecord, Text.quotedList_inj]
  · simp [(message_stream_ne others words).symm]
  · simp [message_stream_ne words others]
  · simp [sentenceMessage, Chain.streamSentenceRecord, Text.quotedList_inj]

theorem unbroken_message (streamed : Bool) (words : List String) :
    Text.Unbroken (sentenceMessage streamed words).toList := by
  have quoted := Text.unbroken_quotedList words
  cases streamed with
  | false => exact quoted
  | true =>
    have chars : (sentenceMessage true words).toList =
        "stream ".toList ++ (Text.quotedList words).toList := String.toList_append
    rw [chars, Text.unbroken_append_iff]
    exact ⟨by decide, quoted⟩

theorem Handover.message_sentence (h : Handover) :
    h.sentence.message = sentenceMessage h.opens h.words := by
  cases h <;> rfl

namespace Session

/-- The messages of the sentence log are those of the sentences that were handed over. -/
theorem messages_eq (s : Session) (steps : List Step) :
    s.messages steps =
      ((s.handovers steps).map fun h => (h.opens, h.words)).map fun sent =>
        sentenceMessage sent.1 sent.2 := by
  rw [messages, s.filter_log_sentence, List.map_map, List.map_map]
  exact List.map_congr_left fun h _ => h.message_sentence

theorem messages_eq_iff {s t : Session} {steps others : List Step} :
    s.messages steps = t.messages others ↔
      (s.handovers steps).map (fun h => (h.opens, h.words)) =
        (t.handovers others).map fun h => (h.opens, h.words) := by
  rw [messages_eq, messages_eq]
  exact List.map_inj_right fun _ _ same => message_inj.mp same

theorem unbroken_messages {s : Session} {steps : List Step} {message : String}
    (member : message ∈ s.messages steps) : Text.Unbroken message.toList := by
  rw [messages_eq] at member
  obtain ⟨sent, -, rfl⟩ := List.mem_map.mp member
  exact unbroken_message sent.1 sent.2

end Session

/-- The message of a sentence tells its words, and whether they were written or a stream was to be
opened with them. No line ends in it. So the sentence logs of two sessions are alike only where the
same sentences were handed over in the same way and in the same order, and a log has one line for
each of them. -/
theorem messages_tell_sentences :
    (∀ words others : List String,
      ((sentenceRecord words).message = (sentenceRecord others).message ↔ words = others) ∧
      ((Chain.streamSentenceRecord words).message = (Chain.streamSentenceRecord others).message ↔
        words = others) ∧
      (Chain.streamSentenceRecord words).message ≠ (sentenceRecord others).message) ∧
    (∀ words : List String, ∀ record ∈ [sentenceRecord words, Chain.streamSentenceRecord words],
      '\n' ∉ record.message.toList ∧ '\r' ∉ record.message.toList) ∧
    ∀ (s : Session) (steps : List Step),
      (∀ message ∈ s.messages steps, '\n' ∉ message.toList ∧ '\r' ∉ message.toList) ∧
      ∀ (t : Session) (others : List Step), s.messages steps = t.messages others ↔
        (s.handovers steps).map (fun h => (h.opens, h.words)) =
          (t.handovers others).map fun h => (h.opens, h.words) := by
  have oneLine {message : String} (unbroken : Text.Unbroken message.toList) :
      '\n' ∉ message.toList ∧ '\r' ∉ message.toList :=
    ⟨fun feed => (unbroken _ feed).1 rfl, fun ret => (unbroken _ ret).2 rfl⟩
  refine ⟨fun words others => ⟨?_, ?_, message_stream_ne words others⟩, ?_,
    fun s steps => ⟨?_, ?_⟩⟩
  · exact (@message_inj false false words others).trans (by simp)
  · exact (@message_inj true true words others).trans (by simp)
  · intro words record member
    rcases List.mem_pair.mp member with rfl | rfl
    · exact oneLine (unbroken_message false words)
    · exact oneLine (unbroken_message true words)
  · exact fun message member => oneLine (Session.unbroken_messages member)
  · exact fun t others => Session.messages_eq_iff

/-- A word that holds the end of a list, a line feed and another list stays one word of one
message, and a word that looks like two is told from the two. -/
theorem messages_tell_sentences_forged :
    let steps (words : List String) : List Step :=
      [.create "q" "/log" {}, .call "q" (.raw words), .request "q" .get]
    let start : Session := {}
    let forged := "[\"/log/print\", \"?a\\\"]\\n[\\\"/reset\"]"
    (start.messages (steps ["?a\"]\n[\"/reset"]) = [forged] ∧
      '\n' ∉ forged.toList ∧ '\r' ∉ forged.toList) ∧
    start.messages (steps ["a\", \"b"]) ≠ start.messages (steps ["a", "b"]) := by
  intro steps start forged
  obtain ⟨-, -, sessions⟩ := messages_tell_sentences
  have written : start.messages (steps ["?a\"]\n[\"/reset"]) = [forged] := by
    decide +kernel
  have told := (sessions start (steps ["?a\"]\n[\"/reset"])).1 forged
  rw [written] at told
  refine ⟨⟨written, told List.mem_cons_self⟩, ?_⟩
  rw [ne_eq, (sessions start (steps ["a\", \"b"])).2 start (steps ["a", "b"])]
  decide

end DeviceQuery
