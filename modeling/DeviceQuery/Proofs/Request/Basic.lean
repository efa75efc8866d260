import DeviceQuery.Proofs.Chain.Calls
import DeviceQuery.Session

/-!
# What requests write

A link serves the next reply and keeps the sentence (`Link.write_eq`). Every request but a purge is
the plain reading request of a chain, with its reply seen in some way (`make_eq_get`). So what a
request adds to the written sentences is the sentence that its chain assembles, and for a purge the
two sentences of its own (`written_make`). A stream adds at most the sentence that its chain
assembles, and only to the streamed ones (`streamed_stream`).
-/

namespace DeviceQuery

namespace Link

/-- The reply that the next sentence gets. -/
def nextReply (l : Link) : Reply := l.replies.headD (.ok [])

/-- The link after a sentence. -/
def sent (l : Link) (words : List String) : Link :=
  { l with replies := l.replies.tail, written := l.written ++ [words] }

theorem write_eq (l : Link) (words : List String) :
    l.write words = (l.nextReply, l.sent words) := by
  unfold write nextReply sent
  cases replies : l.replies <;> simp

theorem sent_sent (l : Link) (first second : List String) :
    (l.sent first).sent second =
      { l with replies := l.replies.drop 2, written := l.written ++ [first, second] } := by
  simp [sent, ← List.drop_one]

@[simp] theorem write_written (l : Link) (words : List String) :
    (l.write words).2.written = l.written ++ [words] := by
  rw [write_eq, sent]

@[simp] theorem write_streamed (l : Link) (words : List String) :
    (l.write words).2.streamed = l.streamed := by
  rw [write_eq, sent]

end Link

namespace Exchange

variable {α β γ : Type}

theorem map_map (e : Exchange α) (f : α → β) (g : β → γ) :
    (e.map f).map g = e.map (g ∘ f) := by
  obtain ⟨result, link, records⟩ := e
  cases result <;> rfl

@[simp] theorem map_link (e : Exchange α) (f : α → β) : (e.map f).link = e.link := rfl

@[simp] theorem refused_map (f : α → β) (failure : Failure) (link : Link) :
    (refused failure link).map f = refused failure link := rfl

end Exchange

namespace Request

/-- The criteria that a request takes into the filter first. -/
def criteria? : Request → Option Criteria
  | getBy c | findBy c | collectBy c => some c
  | _ => none

/-- The calls that a request makes on its chain before anything is written. -/
def calls (r : Request) : List Call := r.criteria?.toList.map Call.given

/-- The chain that a request is made with, its own calls included. -/
def chain (r : Request) (q : Chain) : Chain := q.applyAll r.calls

@[simp] theorem chain_path (r : Request) (q : Chain) : (r.chain q).path = q.path :=
  Chain.applyAll_path q r.calls

@[simp] theorem chain_settings (r : Request) (q : Chain) :
    (r.chain q).settings = q.settings := Chain.applyAll_settings q r.calls

/-- What a reading request makes of the rows. -/
def view (style : NameStyle) (rows : List Row) : Request → View
  | find | first | getOne | getOnly | findBy _ => .row (rows.headD Dict.empty)
  | collect | collectBy _ => .items (rows.map (Item.ofRow style))
  | _ => .rows rows

/-- Every request but a purge is the plain reading request of its chain, seen in its own way. -/
theorem make_eq_get {r : Request} (reads : r ≠ purge) (q : Chain) (link : Link) :
    r.make q link =
      ((r.chain q).get link).map fun rows => r.view q.settings.nameStyle rows := by
  cases r with
  | purge => exact absurd rfl reads
  | get | getAll | print | collectRows | getBy c => rfl
  | find | first | getOne | getOnly | findBy c => exact Exchange.map_map _ _ _
  | collect | collectBy c => exact Exchange.map_map _ _ _

end Request

namespace Chain

theorem send_result (q : Chain) (s : Sentence) (link : Link) :
    (q.send s link).result = link.nextReply := by
  rw [send, link.write_eq]

theorem send_link (q : Chain) (s : Sentence) (link : Link) :
    (q.send s link).link = link.sent s.words := by
  rw [send, link.write_eq]

@[simp] theorem send_written (q : Chain) (s : Sentence) (link : Link) :
    (q.send s link).link.written = link.written ++ [s.words] := link.write_written s.words

@[simp] theorem send_streamed (q : Chain) (s : Sentence) (link : Link) :
    (q.send s link).link.streamed = link.streamed := link.write_streamed s.words

/-- There is only one sentence that is assembled for an action. -/
theorem eq_sentence_of_assemble {q : Chain} {action : String} {s : Sentence}
    (assembled : q.assemble action = .ok s) : s = q.sentence action := by
  unfold assemble at assembled
  split at assembled
  · cases valid : q.validate with
    | error f =>
      rw [valid] at assembled
      cases assembled
    | ok _ =>
      rw [valid] at assembled
      exact (Except.ok.inj assembled).symm
  · exact (Except.ok.inj assembled).symm

/-- A reading request writes at most the sentence that its chain assembles. -/
theorem written_get (q : Chain) (link : Link) :
    ∃ sent, (q.get link).link.written = link.written ++ sent ∧
      (q.get link).link.streamed = link.streamed ∧
      ∀ words ∈ sent, ∃ s, q.assemble printAction = .ok s ∧ words = s.words := by
  unfold get
  cases assembled : q.assemble printAction with
  | error failure => exact ⟨[], by simp [Exchange.refused], rfl, by simp⟩
  | ok s =>
    refine ⟨[s.words], q.send_written s link, q.send_streamed s link, ?_⟩
    intro words member
    exact ⟨s, rfl, List.mem_singleton.mp member⟩

/-- A purge writes the sentence that asks for the ids, and at most one that removes items. -/
theorem written_purge (q : Chain) (link : Link) :
    ∃ removed, (q.purge link).link.written = link.written ++ q.idSentence.words :: removed ∧
      (q.purge link).link.streamed = link.streamed ∧
      ∀ words ∈ removed, ∃ ids, words = (q.removeSentence ids).words := by
  unfold purge
  dsimp only
  split
  · exact ⟨[], by simp, by simp, by simp⟩
  · next rows listed =>
    let ids := rows.filterMap fun row => row.get? idName
    refine ⟨[(q.removeSentence ids).words], by simp [ids], by simp, ?_⟩
    intro words member
    exact ⟨ids, List.mem_singleton.mp member⟩

/-- A stream hands over at most the sentence that its chain assembles. -/
theorem streamed_stream (q : Chain) (action : String) (withCallback runtime : Bool)
    (link : Link) :
    ∃ sent, (q.stream action withCallback runtime link).link.streamed = link.streamed ++ sent ∧
      (q.stream action withCallback runtime link).link.written = link.written ∧
      ∀ words ∈ sent, ∃ s, q.assemble action = .ok s ∧ words = s.words := by
  unfold stream
  cases assembled : q.assemble action with
  | error failure => exact ⟨[], by simp [Exchange.refused], rfl, by simp⟩
  | ok s =>
    cases runtime with
    | false => exact ⟨[], by simp [Link.stream], rfl, by simp⟩
    | true =>
      refine ⟨[s.words], rfl, rfl, ?_⟩
      intro words member
      exact ⟨s, rfl, List.mem_singleton.mp member⟩

end Chain

namespace Request

/-- What a request writes: at most the sentence that its chain assembles, and for a purge the
sentences about ids. -/
theorem written_make (r : Request) (q : Chain) (link : Link) :
    ∃ sent, (r.make q link).link.written = link.written ++ sent ∧
      (r.make q link).link.streamed = link.streamed ∧
      ∀ words ∈ sent, (∃ s, (r.chain q).assemble Chain.printAction = .ok s ∧ words = s.words) ∨
        words = q.idSentence.words ∨ ∃ ids, words = (q.removeSentence ids).words := by
  by_cases reads : r = purge
  · subst reads
    obtain ⟨removed, written, streamed, removing⟩ := q.written_purge link
    refine ⟨q.idSentence.words :: removed, written, streamed, ?_⟩
    intro words member
    rcases List.mem_cons.mp member with first | later
    · exact Or.inr (Or.inl first)
    · exact Or.inr (Or.inr (removing words later))
  · obtain ⟨sent, written, streamed, assembled⟩ := (r.chain q).written_get link
    rw [make_eq_get reads, Exchange.map_link]
    exact ⟨sent, written, streamed, fun words member => Or.inl (assembled words member)⟩

end Request

end DeviceQuery
