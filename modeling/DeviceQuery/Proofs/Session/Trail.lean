import DeviceQuery.Proofs.Request.Strict
import DeviceQuery.Proofs.Session.Ledger
import Mathlib.Data.List.Basic

/-!
# The log of a session

A session hands sentences to its link when a request is made and when a stream is opened. Each of
them leaves its entries in the log, one of which is its sentence, and the records of sentences,
requests and streams are these entries and no others (`filter_log`). The link keeps a sentence that
is written with the reply that its entries tell of (`map_postings`), and keeps one of a stream if
there is something to run the stream (`streamed_handovers`). So the log is a trail of the link, as
long as nobody else writes to it (`log_tells_handovers`).
-/

namespace DeviceQuery

/-- A sentence that is handed to a link for a menu: one that is written, with the reply that it
gets, the one of a purge that removes the items with some ids, or one that a stream is to be opened
with, which takes something to run it. -/
inductive Handover where
  | write (path : String) (words : List String) (reply : Reply)
  | removal (path : String) (ids : List String) (reply : Reply)
  | stream (path : String) (words : List String) (runtime : Bool)

namespace Handover

def words : Handover → List String
  | write _ words _ | stream _ words _ => words
  | removal path ids _ => [path ++ "/remove", "=numbers=" ++ ",".intercalate ids]

/-- The sentence with its reply, if it is written. -/
def written? (h : Handover) : Option (List String × Reply) :=
  match h with
  | write _ _ reply | removal _ _ reply => some (h.words, reply)
  | stream .. => none

/-- The sentence, if a stream is opened with it. -/
def streamed? (h : Handover) : Option (List String) :=
  match h with
  | stream _ _ true => some h.words
  | _ => none

/-- The record of the sentence. -/
def sentence (h : Handover) : Log.Record :=
  match h with
  | write .. | removal .. => ⟨.debug, .sentence, Text.quotedList h.words⟩
  | stream .. => ⟨.debug, .sentence, "stream " ++ Text.quotedList h.words⟩

/-- The record of a reply: the number of rows, or the failure. -/
def outcome (path : String) : Reply → Log.Record
  | .ok rows => ⟨.debug, .request, path ++ ": " ++ toString rows.length ++ " row(s)"⟩
  | .error f => ⟨.warn, .request, path ++ ": " ++ f.message⟩

/-- All that is logged of a sentence. The number of ids comes before a removal. -/
def entries (h : Handover) : List Log.Record :=
  match h with
  | write path _ reply => [h.sentence, outcome path reply]
  | removal path ids reply =>
    [⟨.info, .request, "purge " ++ path ++ ": removing " ++ toString ids.length ++ " item(s)"⟩,
      h.sentence, outcome path reply]
  | stream path _ _ => [h.sentence, ⟨.info, .stream, path ++ ": opening stream"⟩]

end Handover

/-- The record is about a sentence, a request or a stream. -/
def Log.Record.isEntry (r : Log.Record) : Bool :=
  match r.target with
  | .sentence | .request | .stream => true
  | .settings | .link => false

/-- The sentences that a request hands over. -/
def Request.handovers (r : Request) (q : Chain) (link : Link) : List Handover :=
  match r with
  | purge =>
    .write q.path q.idSentence.words link.nextReply ::
      match link.nextReply with
      | .error _ => []
      | .ok rows =>
        [.removal q.path (rows.filterMap fun row => row.get? idName)
          (link.sent q.idSentence.words).nextReply]
  | _ =>
    match (r.chain q).assemble Chain.printAction with
    | .error _ => []
    | .ok s => [.write q.path s.words link.nextReply]

/-- The sentences that a step hands over through a chain. -/
def Step.handovers (s : Session) : Step → List Handover
  | request name r =>
    match s.chains.get? name with
    | none => []
    | some q => r.handovers q s.link
  | stream name _ how runtime =>
    match s.chains.get? name with
    | none => []
    | some q =>
      match q.assemble how.action with
      | .error _ => []
      | .ok sentence => [.stream q.path sentence.words runtime]
  | _ => []

/-- The sentences that some steps hand over through chains, in order. -/
def Session.handovers (s : Session) : List Step → List Handover
  | [] => []
  | step :: rest => step.handovers s ++ (s.step step).session.handovers rest

/-- The strict setting stops the step: it makes a request, but no purge, or opens a stream, and the
filter is short of operands. -/
inductive Step.Refused (s : Session) : Step → Shortfall → Prop
  | request {name : String} {r : Request} {q : Chain} {short : Shortfall}
      (there : s.chains.get? name = some q) (strict : q.settings.strict = true)
      (reads : r ≠ .purge) (unbalanced : (r.chain q).check = .error short) :
      Refused s (.request name r) short
  | stream {name feed : String} {how : Opening} {runtime : Bool} {q : Chain} {short : Shortfall}
      (there : s.chains.get? name = some q) (strict : q.settings.strict = true)
      (unbalanced : q.check = .error short) : Refused s (.stream name feed how runtime) short

/-- What the next step of a session logs and hands over. -/
structure Session.Logs (s : Session) : Prop where
  entries : ∀ step : Step, (s.step step).records.filter Log.Record.isEntry =
    (step.handovers s).flatMap Handover.entries
  /-- Who is stopped by the strict setting fails and leaves no record of any kind. -/
  refused : ∀ step short, Step.Refused s step short →
    (s.step step).answer = .failed (.malformed short.message) ∧ (s.step step).records = [] ∧
      step.handovers s = []
  /-- A purge removes the ids that it is answered with, and nothing if it is not answered. -/
  purged : ∀ name q, s.chains.get? name = some q →
    let handed := Step.handovers s (.request name .purge)
    let print := [q.path ++ "/print", "=.proplist=.id"]
    (∀ e, s.link.nextReply = .error e → handed = [.write q.path print (.error e)]) ∧
    ∀ rows, s.link.nextReply = .ok rows → ∃ reply,
      handed = [.write q.path print (.ok rows),
        .removal q.path (rows.filterMap fun row => row.get? ".id") reply]
  /-- Nothing but a purge removes. -/
  removes : ∀ step path ids reply, .removal path ids reply ∈ Step.handovers s step →
    ∃ name, step = .request name .purge
  /-- A stream is handed over with what there is to run it. -/
  opens : ∀ step path words runtime, .stream path words runtime ∈ Step.handovers s step →
    ∃ name feed how, step = .stream name feed how runtime

/-! ## Requests -/

namespace Handover

theorem filter_entries (h : Handover) : h.entries.filter Log.Record.isEntry = h.entries := by
  cases h with
  | write _ _ reply | removal _ _ reply => cases reply <;> rfl
  | stream => rfl

/-- Of the entries of a sentence one is the sentence itself. -/
theorem filter_entries_sentence (h : Handover) :
    h.entries.filter (fun r => r.target = .sentence) = [h.sentence] := by
  cases h with
  | write _ _ reply | removal _ _ reply => cases reply <;> rfl
  | stream => rfl

theorem replyRecord_eq (path : String) (reply : Reply) :
    replyRecord path reply = outcome path reply := by
  cases reply <;> rfl

end Handover

namespace Chain

theorem send_records (q : Chain) (s : Sentence) (link : Link) :
    (q.send s link).records = (Handover.write q.path s.words link.nextReply).entries := by
  rw [send, link.write_eq]
  dsimp only
  rw [Handover.replyRecord_eq]
  rfl

theorem records_get (q : Chain) (link : Link) :
    (q.get link).records =
      match q.assemble printAction with
      | .error _ => []
      | .ok s => (Handover.write q.path s.words link.nextReply).entries := by
  unfold get
  cases q.assemble printAction with
  | error => rfl
  | ok s => exact q.send_records s link

theorem records_purge (q : Chain) (link : Link) :
    (q.purge link).records = (Request.purge.handovers q link).flatMap Handover.entries := by
  have listed : (q.send q.idSentence link).result = link.nextReply := q.send_result _ _
  have asked : (q.send q.idSentence link).link = link.sent q.idSentence.words := q.send_link _ _
  cases replied : link.nextReply with
  | error f =>
    -- a failed listing is the whole purge
    have stops : q.purge link = q.send q.idSentence link := by simp [purge, listed, replied]
    simp [stops, send_records, Request.handovers, replied]
  | ok rows =>
    let ids := rows.filterMap fun row => row.get? idName
    have goesOn : (q.purge link).records =
        (q.send q.idSentence link).records ++
          q.purgeRecord ids ::
            (q.send (q.removeSentence ids) (q.send q.idSentence link).link).records := by
      simp [purge, listed, replied, ids]
    rw [goesOn, asked, send_records, send_records, replied]
    simp only [Request.handovers, replied]
    rfl

end Chain

namespace Request

variable (r : Request) (q : Chain) (link : Link)

theorem handovers_of_reads {r : Request} (reads : r ≠ purge) :
    r.handovers q link =
      match (r.chain q).assemble Chain.printAction with
      | .error _ => []
      | .ok s => [.write q.path s.words link.nextReply] := by
  cases r with
  | purge => exact absurd rfl reads
  | _ => rfl

/-- A request logs the entries of the sentences that it hands over. -/
theorem records_make :
    (r.make q link).records = (r.handovers q link).flatMap Handover.entries := by
  by_cases reads : r = purge
  · subst reads
    exact q.records_purge link
  · rw [make_eq_get reads, handovers_of_reads q link reads]
    change ((r.chain q).get link).records = _
    rw [Chain.records_get, r.chain_path]
    cases (r.chain q).assemble Chain.printAction with
    | error => rfl
    | ok s => exact (List.append_nil _).symm

/-- A request hands nothing over, or one sentence, or the two of a purge. -/
theorem handovers_cases :
    (r.handovers q link = [] ∧ r.sentences q link = []) ∨
    (∃ words, r.handovers q link = [.write q.path words link.nextReply] ∧
      r.sentences q link = [words]) ∨
    (r = purge ∧ ∃ words ids,
      let second : Handover := .removal q.path ids (link.sent words).nextReply
      r.handovers q link = [.write q.path words link.nextReply, second] ∧
        r.sentences q link = [words, second.words]) := by
  by_cases reads : r = purge
  · subst reads
    cases replied : link.nextReply with
    | error f => exact .inr (.inl ⟨q.idSentence.words, by simp [handovers, sentences, replied]⟩)
    | ok rows =>
      let ids := rows.filterMap fun row => row.get? idName
      refine .inr (.inr ⟨rfl, q.idSentence.words, ids, ?_, ?_⟩)
      · simp only [handovers, replied, ids]
      · simp only [sentences, replied]
        rfl
  · rw [handovers_of_reads q link reads, sentences_of_reads reads]
    cases (r.chain q).assemble Chain.printAction with
    | error => exact .inl ⟨rfl, rfl⟩
    | ok s => exact .inr (.inl ⟨s.words, rfl, rfl⟩)

/-- The sentences that a request writes get the replies that are handed over with them. -/
theorem map_postings :
    (link.postings ((r.sentences q link).map .write)).map (fun p => (p.words, p.reply)) =
      (r.handovers q link).filterMap Handover.written? := by
  rcases r.handovers_cases q link with
    ⟨none, unwritten⟩ | ⟨words, one, written⟩ | ⟨-, words, ids, two, written⟩
  · rw [none, unwritten]
    rfl
  · rw [one, written]
    change [link.posting words].map _ = _
    rw [Link.posting_eq]
    rfl
  · rw [two, written]
    change List.map _ (link.postings [.write words, .write _]) = _
    rw [Link.postings_write_write, Link.posting_eq, Link.posting_eq]
    rfl

/-- What a request hands over is written, and only a purge removes. -/
theorem mem_handovers {h : Handover} (member : h ∈ r.handovers q link) :
    (∃ path words reply, h = .write path words reply) ∨
    (r = purge ∧ ∃ path ids reply, h = .removal path ids reply) := by
  rcases r.handovers_cases q link with ⟨none, -⟩ | ⟨words, one, -⟩ | ⟨purges, words, ids, two, -⟩
  · rw [none] at member
    cases member
  · rw [one, List.mem_singleton] at member
    exact .inl ⟨_, _, _, member⟩
  · rw [two, List.mem_pair] at member
    rcases member with first | second
    · exact .inl ⟨_, _, _, first⟩
    · exact .inr ⟨purges, _, _, _, second⟩

theorem streamed_handovers : (r.handovers q link).filterMap Handover.streamed? = [] := by
  rw [List.filterMap_eq_nil_iff]
  intro h member
  rcases r.mem_handovers q link member with ⟨_, _, _, rfl⟩ | ⟨-, _, _, _, rfl⟩ <;> rfl

end Request

/-! ## Steps -/

theorem Settings.filter_records_ofVariables (vars : Variables) :
    (Settings.ofVariables vars).2.filter Log.Record.isEntry = [] := by
  change (Settings.overlayStyle _ (vars Settings.styleVariable)).2.filter _ = []
  cases vars Settings.styleVariable with
  | none => rfl
  | some text =>
    dsimp only [overlayStyle]
    split <;> rfl

namespace Session

theorem records_withChain (s : Session) (name : String) (next : Chain → Outcome) :
    (s.withChain name next).records =
      match s.chains.get? name with
      | none => []
      | some q => (next q).records := by
  unfold withChain
  cases s.chains.get? name <;> rfl

/-- A stream hands over the sentence that its chain assembles, and logs its entries. The link is
opened with this sentence if there is something to run the stream. -/
theorem opening_cases (s : Session) (name feed : String) (how : Opening) (runtime : Bool) :
    let step : Step := .stream name feed how runtime
    (step.handovers s = [] ∧ step.acts s = [] ∧ (s.step step).records = []) ∨
    ∃ path words, step.handovers s = [.stream path words runtime] ∧
      step.acts s = (if runtime then [.stream words] else []) ∧
      (s.step step).records = (Handover.stream path words runtime).entries := by
  intro step
  have stepped : (s.step step).records =
      (s.withChain name fun q => s.openStream name feed q how runtime).records := rfl
  rw [records_withChain] at stepped
  cases there : s.chains.get? name with
  | none =>
    rw [there] at stepped
    exact .inl ⟨by simp [step, Step.handovers, there], by simp [step, Step.acts, there], stepped⟩
  | some q =>
    have opened : (s.openStream name feed q how runtime).records =
        (q.stream how.action how.withCallback runtime s.link).records := by
      unfold openStream
      dsimp only
      split <;> rfl
    simp only [there, opened, Chain.stream] at stepped
    cases assembled : q.assemble how.action with
    | error f =>
      rw [assembled] at stepped
      exact .inl ⟨by simp [step, Step.handovers, there, assembled],
        by simp [step, Step.acts, there, assembled], stepped⟩
    | ok sentence =>
      rw [assembled] at stepped
      exact .inr ⟨q.path, sentence.words, by simp [step, Step.handovers, there, assembled],
        by simp [step, Step.acts, there, assembled], stepped⟩

/-- Of the steps that drive feeds only one logs anything, and that is no entry. -/
theorem filter_records_drive (s : Session) (feed : String) (what : Drive) :
    (s.step (.drive feed what)).records.filter Log.Record.isEntry = [] := by
  have turned (s : Session) (f : Feed) (control : Control) :
      (s.turn feed f control).records = [] := by
    unfold turn
    split <;> rfl
  change ((s.beforeDrive what).withFeed feed _).records.filter _ = []
  unfold withFeed
  split
  · next f _ =>
    cases what with
    | pause => exact congrArg (List.filter _) (turned _ f .paused)
    | resume => exact congrArg (List.filter _) (turned _ f .running)
    | stop =>
      change (if f.control = .stopped then [] else [stopRecord]).filter _ = []
      split <;> rfl
    | receive | control | finished | given | close => rfl
  · rfl

/-- A step logs the entries of the sentences that it hands over, and no others. -/
theorem filter_records_step (s : Session) (step : Step) :
    (s.step step).records.filter Log.Record.isEntry =
      (step.handovers s).flatMap Handover.entries := by
  have whole (all : List Handover) :
      (all.flatMap Handover.entries).filter Log.Record.isEntry =
        all.flatMap Handover.entries := by
    rw [List.filter_flatMap]
    exact List.flatMap_congr fun h _ => h.filter_entries
  have plain (name : String) (next : Chain → Outcome) (quiet : ∀ q, (next q).records = []) :
      (s.withChain name next).records = [] := by
    rw [records_withChain]
    split
    · rfl
    · exact quiet _
  cases step with
  | pushReply | setStreamRows | written | streamed | write | create | settle => rfl
  | menu name path vars => exact Settings.filter_records_ofVariables vars
  | copy name target => exact congrArg (List.filter _) (plain name _ fun _ => rfl)
  | inspect name what => exact congrArg (List.filter _) (plain name _ fun _ => rfl)
  | call name call => exact congrArg (List.filter _) (plain name _ fun _ => rfl)
  | drive feed what => exact s.filter_records_drive feed what
  | request name r =>
    rw [step_request, records_withChain]
    simp only [Step.handovers]
    cases s.chains.get? name with
    | none => rfl
    | some q =>
      change (r.make q s.link).records.filter _ = _
      rw [r.records_make, whole]
  | stream name feed how runtime =>
    rcases s.opening_cases name feed how runtime with
      ⟨none, -, quiet⟩ | ⟨path, words, one, -, records⟩
    · rw [none, quiet]
      rfl
    · rw [one, records]
      exact whole [.stream path words runtime]

end Session

namespace Step

/-- What a step writes through a chain gets the replies that are handed over with it. -/
theorem map_postings (s : Session) (step : Step) (driven : ∀ words, step ≠ .write words) :
    (s.link.postings (step.acts s)).map (fun p => (p.words, p.reply)) =
      (step.handovers s).filterMap Handover.written? := by
  cases step with
  | write words => exact absurd rfl (driven words)
  | request name r =>
    simp only [acts, handovers]
    cases s.chains.get? name with
    | none => rfl
    | some q => exact r.map_postings q s.link
  | stream name feed how runtime =>
    rcases s.opening_cases name feed how runtime with
      ⟨none, undone, -⟩ | ⟨path, words, one, acts, -⟩
    · rw [none, undone]
      rfl
    · rw [one, acts]
      cases runtime <;> rfl
  | _ => rfl

theorem streamed_handovers (s : Session) (step : Step) :
    (step.acts s).filterMap Act.streamed? = (step.handovers s).filterMap Handover.streamed? := by
  cases step with
  | request name r =>
    simp only [acts, handovers]
    cases s.chains.get? name with
    | none => rfl
    | some q =>
      dsimp only
      rw [r.streamed_handovers]
      simp [Act.streamed?]
  | stream name feed how runtime =>
    rcases s.opening_cases name feed how runtime with
      ⟨none, undone, -⟩ | ⟨path, words, one, acts, -⟩
    · rw [none, undone]
      rfl
    · rw [one, acts]
      cases runtime <;> rfl
  | _ => rfl

/-- Sentences are handed over by requests and by streams. -/
theorem mem_handovers {s : Session} {step : Step} {h : Handover} (member : h ∈ step.handovers s) :
    (∃ name r q, step = .request name r ∧ h ∈ r.handovers q s.link) ∨
    ∃ name feed how runtime path words, step = .stream name feed how runtime ∧
      h = .stream path words runtime := by
  cases step with
  | request name r =>
    simp only [handovers] at member
    cases there : s.chains.get? name with
    | none => simp [there] at member
    | some q =>
      rw [there] at member
      exact .inl ⟨name, r, q, rfl, member⟩
  | stream name feed how runtime =>
    rcases s.opening_cases name feed how runtime with ⟨none, -, -⟩ | ⟨path, words, one, -, -⟩
    · rw [none] at member
      cases member
    · rw [one, List.mem_singleton] at member
      exact .inr ⟨name, feed, how, runtime, path, words, rfl, member⟩
  | _ => cases member

end Step

namespace Session

/-! ## Runs -/

theorem filter_log (s : Session) (steps : List Step) :
    (s.log steps).filter Log.Record.isEntry = (s.handovers steps).flatMap Handover.entries := by
  induction steps generalizing s with
  | nil => rfl
  | cons step rest ih =>
    rw [log_cons, List.filter_append, filter_records_step, ih, handovers, List.flatMap_append]

theorem filter_log_sentence (s : Session) (steps : List Step) :
    (s.log steps).filter (fun r => r.target = .sentence) =
      (s.handovers steps).map Handover.sentence := by
  have narrow : (fun r : Log.Record => decide (r.target = .sentence) && r.isEntry) =
      fun r => decide (r.target = .sentence) := by
    funext r
    cases target : r.target <;> simp [Log.Record.isEntry, target]
  calc (s.log steps).filter (fun r => r.target = .sentence)
      = ((s.log steps).filter Log.Record.isEntry).filter fun r => r.target = .sentence := by
        rw [List.filter_filter, narrow]
    _ = (s.handovers steps).flatMap fun h => [h.sentence] := by
        rw [filter_log, List.filter_flatMap]
        exact List.flatMap_congr fun h _ => h.filter_entries_sentence
    _ = (s.handovers steps).map Handover.sentence := List.flatMap_pure_eq_map _ _

theorem map_postings (s : Session) (steps : List Step) (driven : ∀ words, .write words ∉ steps) :
    (s.link.postings (s.acts steps)).map (fun p => (p.words, p.reply)) =
      (s.handovers steps).filterMap Handover.written? := by
  induction steps generalizing s with
  | nil => rfl
  | cons step rest ih =>
    have first : ∀ words, step ≠ .write words := by
      rintro words rfl
      exact driven words List.mem_cons_self
    have later : ∀ words, .write words ∉ rest :=
      fun words member => driven words (List.mem_cons_of_mem _ member)
    rw [acts, Link.postings_append, List.map_append, step.map_postings s first, ← link_step,
      ih _ later, handovers, List.filterMap_append]

theorem streamed_handovers (s : Session) (steps : List Step) :
    (s.acts steps).filterMap Act.streamed? =
      (s.handovers steps).filterMap Handover.streamed? := by
  induction steps generalizing s with
  | nil => rfl
  | cons step rest ih =>
    rw [acts, handovers, List.filterMap_append, List.filterMap_append, ih,
      step.streamed_handovers s]

theorem logs_of_refused {s : Session} {step : Step} {short : Shortfall}
    (refused : step.Refused s short) :
    (s.step step).answer = .failed (.malformed short.message) ∧ (s.step step).records = [] ∧
      step.handovers s = [] := by
  cases refused with
  | @request name r q _ there strict reads unbalanced =>
    have stepped : s.step (.request name r) = s.request name q r := by
      rw [step_request, withChain, there]
    rw [stepped, request, Request.make_of_error reads strict unbalanced]
    refine ⟨rfl, rfl, ?_⟩
    have strict' : (r.chain q).settings.strict = true := by rwa [r.chain_settings]
    simp only [Step.handovers, there]
    rw [Request.handovers_of_reads q s.link reads, Chain.assemble_of_error strict' unbalanced]
  | @stream name feed how runtime q _ there strict unbalanced =>
    have stepped : s.step (.stream name feed how runtime) =
        s.openStream name feed q how runtime := by
      change s.withChain name _ = _
      rw [withChain, there]
    rw [stepped, openStream, Chain.stream_of_error strict unbalanced]
    refine ⟨rfl, rfl, ?_⟩
    simp only [Step.handovers, there, Chain.assemble_of_error strict unbalanced]

theorem logs (s : Session) : s.Logs where
  entries := s.filter_records_step
  refused := fun _ _ => logs_of_refused
  purged := by
    intro name q there handed print
    have printed : q.idSentence.words = print := rfl
    constructor
    · intro e failed
      simp only [handed, Step.handovers, there, Request.handovers, failed, printed]
    · intro rows replied
      refine ⟨(s.link.sent print).nextReply, ?_⟩
      simp only [handed, Step.handovers, there, Request.handovers, replied, printed]
      rfl
  removes := by
    intro step path ids reply member
    rcases step.mem_handovers member with
      ⟨name, r, q, rfl, requested⟩ | ⟨_, _, _, _, _, _, -, streamed⟩
    · rcases r.mem_handovers q s.link requested with ⟨_, _, _, written⟩ | ⟨rfl, -⟩
      · cases written
      · exact ⟨name, rfl⟩
    · cases streamed
  opens := by
    intro step path words runtime member
    rcases step.mem_handovers member with
      ⟨_, r, q, -, requested⟩ | ⟨name, feed, how, _, _, _, rfl, streamed⟩
    · rcases r.mem_handovers q s.link requested with ⟨_, _, _, written⟩ | ⟨-, _, _, _, removed⟩
      · cases written
      · cases removed
    · cases streamed
      exact ⟨name, feed, how, rfl⟩

end Session

/-- The records of sentences are the sentences that were handed to the link, one by one and in
order. With their other entries they are all that is logged of sentences, requests and streams: the
outcome of a sentence that is written comes right after it, and what a purge removes is announced
between its two sentences. The link has kept the sentences that were written, which got the replies
that are told of, and those of streams, if there was something to run them. -/
theorem log_tells_handovers (s : Session) (steps : List Step)
    (driven : ∀ words, .write words ∉ steps) :
    let log := s.log steps
    let handed := s.handovers steps
    let left := (s.after steps).link
    log.filter (fun r => r.target = .sentence) = handed.map Handover.sentence ∧
    log.filter Log.Record.isEntry = handed.flatMap Handover.entries ∧
    left.written = s.link.written ++ (handed.filterMap Handover.written?).map Prod.fst ∧
    (s.link.postings (s.acts steps)).map (fun p => (p.words, p.reply)) =
      handed.filterMap Handover.written? ∧
    left.streamed = s.link.streamed ++ handed.filterMap Handover.streamed? ∧
    (∀ h ∈ handed, h.written? = none → h.streamed? = none →
      ∃ path words, h = .stream path words false) ∧
    (s.after steps).Logs := by
  intro log handed left
  have posted := s.map_postings steps driven
  refine ⟨s.filter_log_sentence steps, s.filter_log steps, ?_, posted, ?_, ?_,
    (s.after steps).logs⟩
  · have words : (handed.filterMap Handover.written?).map Prod.fst =
        (s.acts steps).filterMap Act.written? := by
      rw [← posted, List.map_map, ← s.link.map_words_postings]
      rfl
    change (s.after steps).link.written = _
    rw [words, s.link_after]
    exact Link.record_acts Link.written_act s.link _
  · change (s.after steps).link.streamed = _
    rw [← s.streamed_handovers, s.link_after]
    exact Link.record_acts Link.streamed_act s.link _
  · intro h _ unwritten unstreamed
    cases h with
    | write | removal => cases unwritten
    | stream path words runtime =>
      cases runtime with
      | false => exact ⟨path, words, rfl⟩
      | true => cases unstreamed

/-- A purge with a failure at its second sentence, a strict request that is refused, and a stream
that there is nothing to run: only the refused request leaves no entries, and only the stream has
none in the ledger. -/
theorem log_tells_handovers_purge :
    let row (id : String) : Row := Dict.empty.insert ".id" id
    let steps : List Step :=
      [.pushReply (.ok [row "*1", Dict.empty, row "*2"]), .pushReply (.error .closed),
        .create "all" "/log" {}, .create "strict" "/ip" { strict := true },
        .call "strict" (.raw ["?#&"]), .request "strict" .find, .request "all" .purge,
        .create "log" "/log" {}, .stream "log" "h" (.stream "/follow") false]
    let start : Session := {}
    (∀ words, .write words ∉ steps) ∧
      (start.log steps).filter Log.Record.isEntry =
        [⟨.debug, .sentence, "[\"/log/print\", \"=.proplist=.id\"]"⟩,
          ⟨.debug, .request, "/log: 3 row(s)"⟩,
          ⟨.info, .request, "purge /log: removing 2 item(s)"⟩,
          ⟨.debug, .sentence, "[\"/log/remove\", \"=numbers=*1,*2\"]"⟩,
          ⟨.warn, .request, "/log: Stream closed"⟩,
          ⟨.debug, .sentence, "stream [\"/log/follow\"]"⟩,
          ⟨.info, .stream, "/log: opening stream"⟩] ∧
      (start.after steps).link.written =
        [["/log/print", "=.proplist=.id"], ["/log/remove", "=numbers=*1,*2"]] ∧
      (start.after steps).link.streamed = [] := by
  intro row steps start
  have driven : ∀ words, .write words ∉ steps := by simp [steps]
  have handed : start.handovers steps =
      [.write "/log" ["/log/print", "=.proplist=.id"] (.ok [row "*1", Dict.empty, row "*2"]),
        .removal "/log" ["*1", "*2"] (.error .closed),
        .stream "/log" ["/log/follow"] false] := by rfl
  obtain ⟨-, entries, written, -, streamed, -, -⟩ := log_tells_handovers start steps driven
  rw [handed] at entries written streamed
  exact ⟨driven, entries.trans (by decide +kernel), written.trans (by decide), streamed⟩

end DeviceQuery
