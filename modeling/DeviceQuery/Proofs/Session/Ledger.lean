import DeviceQuery.Proofs.Link.Ledger
import DeviceQuery.Proofs.Request.Purge
import DeviceQuery.Proofs.Session.Feeds

/-!
# The link of a session

What a step of a session does to the link are some acts (`link_step`), so a run of the session is a
run of acts (`link_after`), and a link that was fresh keeps a ledger of them. Requests and direct
writes only write, and are answered with what the last of their sentences got (`make_result`).
Streams only add to the streamed sentences, and driving them does nothing to the link
(`session_keeps_ledger`).
-/

namespace DeviceQuery

namespace Request

/-- The sentences that a request writes. A purge writes its second one after rows only. -/
def sentences (r : Request) (q : Chain) (link : Link) : List (List String) :=
  match r with
  | purge =>
    q.idSentence.words ::
      match link.nextReply with
      | .error _ => []
      | .ok rows => [(q.removeSentence (rows.filterMap fun row => row.get? idName)).words]
  | _ =>
    match (r.chain q).assemble Chain.printAction with
    | .error _ => []
    | .ok s => [s.words]

end Request

/-- What a step does to the link of a session. -/
def Step.acts (s : Session) : Step → List Act
  | pushReply r => [.push r]
  | setStreamRows rows => [.setRows rows]
  | write words => [.write words]
  | request name r =>
    match s.chains.get? name with
    | none => []
    | some q => (r.sentences q s.link).map .write
  | stream name _ how runtime =>
    match s.chains.get? name with
    | none => []
    | some q =>
      match q.assemble how.action with
      | .error _ => []
      | .ok sentence => if runtime then [.stream sentence.words] else []
  | _ => []

def Session.acts (s : Session) : List Step → List Act
  | [] => []
  | step :: rest => step.acts s ++ (s.step step).session.acts rest

namespace Step

def pushed? : Step → Option Reply
  | pushReply r => some r
  | _ => none

/-- The step opens a stream or drives streams. -/
def streams : Step → Bool
  | stream .. | settle | drive .. => true
  | _ => false

/-- The step writes, directly or in a request. -/
def writes : Step → Bool
  | write _ | request .. => true
  | _ => false

end Step

/-! ## Requests -/

namespace Request

variable {r : Request}

theorem sentences_of_reads (reads : r ≠ purge) (q : Chain) (link : Link) :
    r.sentences q link =
      match (r.chain q).assemble Chain.printAction with
      | .error _ => []
      | .ok s => [s.words] := by
  cases r with
  | purge => exact absurd rfl reads
  | _ => rfl

/-- What a request can do: nothing, since its chain has no sentence, or write one sentence or two.
Its result is the reply to the last one, seen in its own way. -/
theorem make_cases (r : Request) (q : Chain) (link : Link) :
    (∃ failure, (r.chain q).assemble Chain.printAction = .error failure ∧
      r.sentences q link = [] ∧ (r.make q link).result = .error failure ∧
      (r.make q link).link = link) ∨
    (∃ words, r.sentences q link = [words] ∧
      (r.make q link).result =
        link.nextReply.map (fun rows => r.view q.settings.nameStyle rows) ∧
      (r.make q link).link = link.sent words) ∨
    ∃ first second, r.sentences q link = [first, second] ∧
      (r.make q link).result =
        (link.sent first).nextReply.map (fun rows => r.view q.settings.nameStyle rows) ∧
      (r.make q link).link = (link.sent first).sent second := by
  by_cases reads : r = purge
  · subst reads
    -- the reply to the first sentence decides whether there is a second one
    cases replied : link.nextReply with
    | error failure =>
      obtain ⟨result, left⟩ := Chain.purge_of_error (q := q) replied
      refine .inr (.inl ⟨q.idSentence.words, by simp [sentences, replied], ?_, left⟩)
      exact congrArg (Except.map View.rows) result
    | ok rows =>
      obtain ⟨result, left⟩ := Chain.purge_of_ok (q := q) replied
      refine .inr (.inr ⟨q.idSentence.words, _, by simp only [sentences, replied], ?_, left⟩)
      exact congrArg (Except.map View.rows) result
  · rw [make_eq_get reads, sentences_of_reads reads]
    cases assembled : (r.chain q).assemble Chain.printAction with
    | error failure =>
      refine .inl ⟨failure, rfl, rfl, ?_⟩
      rw [Chain.get, assembled]
      exact ⟨rfl, rfl⟩
    | ok s =>
      have sends : (r.chain q).get link = (r.chain q).send s link := by
        rw [Chain.get, assembled]
      rw [sends]
      exact .inr (.inl ⟨s.words, rfl, congrArg (Except.map _) ((r.chain q).send_result s link),
        (r.chain q).send_link s link⟩)

theorem make_link (r : Request) (q : Chain) (link : Link) :
    (r.make q link).link = link.acts ((r.sentences q link).map .write) := by
  rcases r.make_cases q link with ⟨_, _, none, _, left⟩ | ⟨words, one, _, left⟩ |
      ⟨first, second, two, _, left⟩
  · rw [left, none]
    rfl
  · rw [left, one]
    exact (link.acts_write words).symm
  · rw [left, two]
    exact (link.acts_write_write first second).symm

/-- The result is the reply to the last sentence, and without any there is none to write. -/
theorem make_result (r : Request) (q : Chain) (link : Link) :
    let posted := link.postings ((r.sentences q link).map .write)
    (∀ p, posted.getLast? = some p →
      (r.make q link).result = p.reply.map fun rows => r.view q.settings.nameStyle rows) ∧
    (posted = [] → ∃ failure, (r.chain q).assemble Chain.printAction = .error failure ∧
      (r.make q link).result = .error failure) := by
  intro posted
  rcases r.make_cases q link with ⟨failure, assembled, none, result, _⟩ |
      ⟨words, one, result, _⟩ | ⟨first, second, two, result, _⟩
  · have empty : posted = [] := by simp [posted, none, Link.postings]
    exact ⟨by simp [empty], fun _ => ⟨failure, assembled, result⟩⟩
  · have single : posted = [link.posting words] := by simp only [posted, one]; rfl
    rw [single, result, Link.posting_eq]
    simp
  · have both : posted = [link.posting first, (link.sent first).posting second] := by
      simp only [posted, two]
      exact link.postings_write_write first second
    rw [both, result, Link.posting_eq, Link.posting_eq]
    simp

end Request

/-! ## Steps -/

namespace Session

theorem link_withChain (s : Session) (name : String) (next : Chain → Outcome)
    (same : ∀ q, (next q).session.link = s.link) :
    (s.withChain name next).session.link = s.link := by
  unfold withChain
  split
  · exact same _
  · rfl

theorem link_driveFeed (s : Session) (name : String) (f : Feed) (what : Drive) :
    (s.driveFeed name f what).session.link = s.link := by
  have turned (control : Control) : (s.turn name f control).session.link = s.link := by
    unfold turn
    split <;> rfl
  cases what with
  | pause => exact turned .paused
  | resume => exact turned .running
  | receive | stop | control | finished | given | close => rfl

theorem link_drive (s : Session) (feed : String) (what : Drive) :
    (s.step (.drive feed what)).session.link = s.link := by
  have before : (s.beforeDrive what).link = s.link := by cases what <;> rfl
  rw [← before]
  change ((s.beforeDrive what).withFeed feed _).session.link = _
  unfold withFeed
  split
  · exact link_driveFeed _ _ _ _
  · rfl

/-- A stream that is opened adds the sentence of its chain, and one that is not does nothing. -/
theorem stream_cases (s : Session) (name feed : String) (how : Opening) (runtime : Bool) :
    let step : Step := .stream name feed how runtime
    (∃ q, (s.step step).answer = .done ∧ s.chains.get? name = some q ∧
      step.acts s = [.stream (q.sentence how.action).words] ∧
      (s.step step).session.link = s.link.acts (step.acts s)) ∨
    ((s.step step).answer ≠ .done ∧ step.acts s = [] ∧ (s.step step).session.link = s.link) := by
  intro step
  have stepped : s.step step = s.withChain name fun q => s.openStream name feed q how runtime := rfl
  unfold withChain at stepped
  cases chain : s.chains.get? name with
  | none =>
    rw [stepped, chain]
    exact .inr ⟨by simp, by simp only [step, Step.acts, chain], rfl⟩
  | some q =>
    rw [stepped, chain]
    dsimp only
    unfold openStream Chain.stream
    -- the check of the filter comes first, and what runs the feed is looked for after it
    cases assembled : q.assemble how.action with
    | error failure =>
      exact .inr ⟨by simp [Exchange.refused], by simp only [step, Step.acts, chain, assembled], rfl⟩
    | ok sentence =>
      cases Chain.eq_sentence_of_assemble assembled
      cases runtime with
      | false =>
        refine .inr ⟨by simp [Link.stream], ?_, rfl⟩
        simp only [step, Step.acts, chain, assembled, Bool.false_eq_true, if_false]
      | true =>
        have acts : step.acts s = [.stream (q.sentence how.action).words] := by
          simp only [step, Step.acts, chain, assembled, if_true]
        exact .inl ⟨q, rfl, rfl, acts, by rw [acts]; rfl⟩

theorem step_request (s : Session) (name : String) (r : Request) :
    s.step (.request name r) = s.withChain name fun q => s.request name q r := rfl

theorem link_step (s : Session) (step : Step) :
    (s.step step).session.link = s.link.acts (step.acts s) := by
  cases step with
  | pushReply | setStreamRows | written | streamed | write | create | menu | settle => rfl
  | copy name target => exact s.link_withChain name _ fun _ => rfl
  | inspect name what => exact s.link_withChain name _ fun _ => rfl
  | call name call => exact s.link_withChain name _ fun _ => rfl
  | drive feed what => exact s.link_drive feed what
  | stream name feed how runtime =>
    rcases s.stream_cases name feed how runtime with ⟨_, _, _, _, left⟩ | ⟨_, none, left⟩
    · exact left
    · rw [left, none]
      rfl
  | request name r =>
    rw [step_request, withChain]
    cases chain : s.chains.get? name with
    | none => simp only [Step.acts, chain]; rfl
    | some q =>
      simp only [Step.acts, chain]
      exact r.make_link q s.link

theorem link_after (s : Session) (steps : List Step) :
    (s.after steps).link = s.link.acts (s.acts steps) := by
  induction steps generalizing s with
  | nil => rfl
  | cons step rest ih => rw [after_cons, ih, acts, link_step, ← Link.acts_append]

end Session

namespace Step

theorem acts_of_writes (step : Step) (writes : step.writes = true) (s : Session) :
    ∃ sentences : List (List String), step.acts s = sentences.map .write := by
  cases step with
  | write words => exact ⟨[words], rfl⟩
  | request name r =>
    simp only [acts]
    split
    · exact ⟨[], rfl⟩
    · exact ⟨_, rfl⟩
  | _ => cases writes

theorem acts_of_streams (step : Step) (streams : step.streams = true) (s : Session) :
    ∃ sentences : List (List String), step.acts s = sentences.map .stream := by
  cases step with
  | stream name feed how runtime =>
    rcases s.stream_cases name feed how runtime with ⟨q, _, _, one, _⟩ | ⟨_, none, _⟩
    · exact ⟨[_], one⟩
    · exact ⟨[], none⟩
  | settle | drive => exact ⟨[], rfl⟩
  | _ => cases streams

theorem pushed_acts (s : Session) (step : Step) :
    (step.acts s).filterMap Act.pushed? = step.pushed?.toList := by
  cases step with
  | request name r =>
    obtain ⟨sentences, written⟩ := acts_of_writes (.request name r) rfl s
    rw [written]
    simp [Act.pushed?, pushed?]
  | stream name feed how runtime =>
    obtain ⟨sentences, streamed⟩ := acts_of_streams (.stream name feed how runtime) rfl s
    rw [streamed]
    simp [Act.pushed?, pushed?]
  | _ => rfl

end Step

namespace Session

theorem acts_concat (s : Session) (steps : List Step) (step : Step) :
    s.acts (steps ++ [step]) = s.acts steps ++ step.acts (s.after steps) := by
  induction steps generalizing s with
  | nil => exact List.append_nil _
  | cons first rest ih =>
    rw [List.cons_append, acts, acts, ih, after_cons, List.append_assoc]

theorem pushed_acts (s : Session) (steps : List Step) :
    (s.acts steps).filterMap Act.pushed? = steps.filterMap Step.pushed? := by
  induction steps generalizing s with
  | nil => rfl
  | cons step rest ih =>
    rw [acts, List.filterMap_append, ih, Step.pushed_acts, filterMap_cons_toList]

/-- How the next step shows in the ledger of the link. -/
structure Books (s : Session) : Prop where
  /-- A sentence that is written directly is answered with the reply to it. -/
  written : ∀ words, (s.step (.write words)).answer =
    .ofResult (fun rows => .view (.rows rows)) (s.link.posting words).reply
  /-- A request is answered with the reply to its last sentence, seen in its own way. If it has
  written none, it has failed because its chain has no sentence. -/
  requested : ∀ name r q, s.chains.get? name = some q →
    let step : Step := .request name r
    let posted := s.link.postings (step.acts s)
    (∀ p, posted.getLast? = some p → (s.step step).answer =
      .ofResult .view (p.reply.map fun rows => r.view q.settings.nameStyle rows)) ∧
    (posted = [] → ∃ failure, (r.chain q).assemble Chain.printAction = .error failure ∧
      (s.step step).answer = .failed failure)
  /-- A stream adds its sentence if it is opened, and nothing if it is not. -/
  opened : ∀ name feed how runtime,
    let step : Step := .stream name feed how runtime
    ((s.step step).answer = .done → ∃ q, s.chains.get? name = some q ∧
      step.acts s = [.stream (q.sentence how.action).words]) ∧
    ((s.step step).answer ≠ .done → step.acts s = [])
  /-- No stream takes a reply or writes, whether it is opened or driven. -/
  streams_leave : ∀ step : Step, step.streams = true →
    (s.step step).session.link.replies = s.link.replies ∧
      (s.step step).session.link.written = s.link.written
  /-- Who writes leaves the streams as they are, also those to come. -/
  writes_leave : ∀ step : Step, step.writes = true →
    (s.step step).session.link.streamed = s.link.streamed ∧
      (s.step step).session.link.streamRows = s.link.streamRows

theorem answer_request {s : Session} {name : String} {q : Chain}
    (there : s.chains.get? name = some q) (r : Request) :
    (s.step (.request name r)).answer = .ofResult .view (r.make q s.link).result := by
  rw [step_request, withChain, there]
  rfl

theorem acts_request {s : Session} {name : String} {q : Chain}
    (there : s.chains.get? name = some q) (r : Request) :
    Step.acts s (.request name r) = (r.sentences q s.link).map .write := by
  simp only [Step.acts, there]

theorem books (s : Session) : s.Books where
  written words := rfl
  requested := by
    intro name r q there step posted
    obtain ⟨replied, refused⟩ := r.make_result q s.link
    rw [← acts_request there r] at replied refused
    have answer := answer_request there r
    constructor
    · intro p last
      rw [answer, replied p last]
    · intro empty
      obtain ⟨failure, assembled, failed⟩ := refused empty
      exact ⟨failure, assembled, by rw [answer, failed]; rfl⟩
  opened := by
    intro name feed how runtime step
    rcases s.stream_cases name feed how runtime with
      ⟨q, done, there, acts, _⟩ | ⟨undone, none, _⟩
    · exact ⟨fun _ => ⟨q, there, acts⟩, fun undone => absurd done undone⟩
    · exact ⟨fun done => absurd done undone, fun _ => none⟩
  streams_leave := by
    intro step streams
    obtain ⟨sentences, acts⟩ := step.acts_of_streams streams s
    rw [link_step, acts, Link.acts_streams]
    exact ⟨rfl, rfl⟩
  writes_leave := by
    intro step writes
    obtain ⟨sentences, acts⟩ := step.acts_of_writes writes s
    rw [link_step, acts]
    exact s.link.streams_of_writes sentences

end Session

/-- A session that began with a fresh link has done some acts to it, and at every point the link
tells of the acts so far: which replies have been served to which sentences and which still wait,
what was written, and with what streams were opened. The replies are the ones that the steps of the
session queued, and what the steps do and are answered shows in the acts. -/
theorem session_keeps_ledger (chains : Dict Chain) (feeds : Dict Feed) (steps : List Step) :
    let start : Session := { chains, feeds }
    let fresh : Link := {}
    let history := start.acts steps
    (start.after steps).link = fresh.acts history ∧
    history.filterMap Act.pushed? = steps.filterMap Step.pushed? ∧
    (∀ before after, history = before ++ after →
      (fresh.acts before).Ledger before ∧
      fresh.postings history = fresh.postings before ++ (fresh.acts before).postings after) ∧
    (∀ step : Step, start.acts (steps ++ [step]) = history ++ step.acts (start.after steps)) ∧
    (start.after steps).Books := by
  intro start fresh history
  refine ⟨start.link_after steps, start.pushed_acts steps, ?_, start.acts_concat steps,
    (start.after steps).books⟩
  intro before after parts
  refine ⟨Link.ledger_acts before, ?_⟩
  rw [parts]
  exact fresh.postings_append before after

/-- A refused request takes no reply. The purge after it gets the two that wait, the second of which
is a failure, and a sentence that is written now finds none. -/
theorem session_keeps_ledger_dry :
    let row : Row := Dict.empty.insert ".id" "*1"
    let refused := (Chain.on "/ip/address" { strict := true }).apply (.raw ["?#&"])
    let start : Session := { chains := Dict.empty.insert "refused" refused }
    let steps : List Step :=
      [.pushReply (.ok [row]), .request "refused" .get, .create "all" "/ip/address" {},
        .pushReply (.error .closed), .request "all" .purge, .create "log" "/log" {},
        .stream "log" "h" .subscribe true, .settle]
    let link := (start.after steps).link
    Link.served {} (start.acts steps) = [.ok [row], .error .closed] ∧
      link.written =
        [["/ip/address/print", "=.proplist=.id"], ["/ip/address/remove", "=numbers=*1"]] ∧
      link.streamed = [["/log"]] ∧
      ((start.after steps).step (.write ["/quit"])).answer = .view (.rows []) := by
  intro row refused start steps link
  obtain ⟨left, pushed, point, -, books⟩ := session_keeps_ledger start.chains Dict.empty steps
  obtain ⟨ledger, -⟩ := point (start.acts steps) [] (List.append_nil _).symm
  have waiting : (Link.acts {} (start.acts steps)).replies = [] := by rfl
  have served := ledger.conserved
  rw [waiting, List.append_nil] at served
  have unserved := (ledger.dry ["/quit"]).mpr served
  have answer := books.written ["/quit"]
  rw [left, ledger.default _ unserved] at answer
  refine ⟨served.trans pushed, ?_, ?_, answer⟩
  · exact (congrArg Link.written left).trans (ledger.written.1.trans (by decide))
  · exact (congrArg Link.streamed left).trans (ledger.streamed.trans (by decide))

end DeviceQuery
