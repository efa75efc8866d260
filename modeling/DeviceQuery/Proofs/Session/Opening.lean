import DeviceQuery.Proofs.Request.Reading
import DeviceQuery.Proofs.Session.Control

/-!
# Opening a stream

The check of the filter comes first, what runs the feed is looked for after it, and only then is
anything done: a stream that is not opened leaves the link and the feeds as they were, and one that
is opened adds its sentence to the link and is a fresh feed. Whether its rows go to a callback or
into a queue makes no difference to the replay (`Feed.Twins.moves`), so at any time a callback has
been given the rows that would have been queued by then (`opening_all_or_nothing`).
-/

namespace DeviceQuery

/-- A stream that was not opened: the failure is told, and nothing is done. -/
structure Refused (s : Session) (f : Failure) (o : Outcome) : Prop where
  answer : o.answer = .failed f
  link : o.session.link = s.link
  feeds : o.session.feeds = s.feeds

/-- A stream that was opened: its sentence is on the link, and its feed has let nothing out. -/
structure Opened (s : Session) (q : Chain) (h : String) (how : Opening) (o : Outcome) : Prop where
  answer : o.answer = .done
  link : o.session.link =
    { s.link with streamed := s.link.streamed ++ [(q.sentence how.action).words] }
  /-- The stream is running and not over, and holds all its rows. -/
  fresh : ∃ f, o.session.feeds.get? h = some f ∧ f.control = .running ∧ f.finished = false ∧
    f.held = s.link.streamRows
  /-- Until the feeds are run for the first time no row is let out. -/
  quiet : ∀ steps : List Step, (∀ step ∈ steps, step.keeps h = true) →
    (∀ step ∈ steps, step.runs = false) → o.session.letOut h steps = []

/-! ## Where the rows go -/

namespace Feed

/-- Two feeds that replay the same rows in the same way, wherever their rows go. -/
structure Twins (f g : Feed) : Prop where
  control : g.control = f.control
  held : g.held = f.held
  finished : g.finished = f.finished

theorem fresh_twins (rows : List Row) (withCallback other : Bool) :
    (fresh rows withCallback).Twins (fresh rows other) := ⟨rfl, rfl, rfl⟩

variable {f g : Feed}

theorem Twins.move (twins : f.Twins g) (m : Move) : (f.move m).Twins (g.move m) := by
  have held : (g.move m).held = (f.move m).held := by
    rw [held_move, held_move, twins.control, twins.held]
  refine ⟨?_, held, ?_⟩
  · rw [control_move, control_move, twins.control]
  · cases m with
    | run =>
      have ended : g.run.finished = true ↔ f.run.finished = true := by
        rw [finished_run, finished_run, twins.control]
        exact or_congr_right (Iff.of_eq (congrArg (· = []) held))
      exact Bool.eq_iff_iff.mpr ended
    | receive =>
      have kept (f : Feed) : f.receive.2.finished = f.finished := by
        rw [Feed.finished, f.receive_spec.2.2, Feed.finished]
      exact (kept g).trans (twins.finished.trans (kept f).symm)
    | pause | resume | stop =>
      have kept (f : Feed) {m : Move} (notRun : m ≠ .run) (notReceive : m ≠ .receive) :
          (f.move m).finished = f.finished := by
        rw [Feed.finished, (f.steer_spec notRun notReceive).2.1, Feed.finished]
      rw [kept g (by simp) (by simp), kept f (by simp) (by simp), twins.finished]

theorem Twins.moves (twins : f.Twins g) (all : List Move) : (f.moves all).Twins (g.moves all) := by
  induction all generalizing f g with
  | nil => exact twins
  | cons m rest ih => exact ih (twins.move m)

/-- What a callback has been given is what a queue has been given by the same moves, whether it has
been received or still waits. -/
theorem deliveries_eq_queued (rows : List Row) (all : List Move) :
    ((fresh rows true).moves all).outlet.deliveries =
      (((fresh rows false).receipts all).filterMap Received.row? ++
        ((fresh rows false).moves all).outlet.waiting).map .ok := by
  have callback : (fresh rows true).outlet = .callback [] := rfl
  have queue : (fresh rows false).outlet = .queue [] := rfl
  obtain ⟨given, called, givenAndHeld, -⟩ := moves_callback callback all
  obtain ⟨waiting, queued, queuedAndHeld⟩ := moves_queue queue all
  have held := ((fresh_twins rows true false).moves all).held
  -- both make up the same rows together with the rows held, and these are the same
  have same : given =
      ((fresh rows false).receipts all).filterMap Received.row? ++ waiting := by
    rw [held] at queuedAndHeld
    exact List.append_cancel_right (givenAndHeld.trans queuedAndHeld.symm)
  rw [called, queued, same]
  rfl

theorem held_moves_of_unrun {all : List Move} (unrun : .run ∉ all) :
    (f.moves all).held = f.held := by
  induction all generalizing f with
  | nil => rfl
  | cons m rest ih =>
    rw [List.mem_cons, not_or] at unrun
    rw [moves_cons, ih unrun.2, held_move, if_neg fun running => unrun.1 running.1.symm]

end Feed

/-- A feed is run in a step exactly if the step runs the feeds. -/
theorem Step.run_mem_moves_iff {h : String} (step : Step) :
    .run ∈ step.moves h ↔ step.runs = true := by
  cases step with
  | settle => simp [moves, runs]
  | drive feed what =>
    by_cases same : feed = h <;> cases what <;> simp [moves, runs, same, Drive.steers]
  | _ => simp [moves, runs]

/-! ## The opening -/

/-- Without anything to run its feed no stream is opened, and the link stays as it was. -/
theorem Chain.stream_without_runtime {q : Chain}
    (checked : q.settings.strict = true → q.check = .ok ()) (action : String)
    (withCallback : Bool) (link : Link) :
    (q.stream action withCallback false link).result = .error Link.noRuntime ∧
      (q.stream action withCallback false link).link = link := by
  rw [stream, assemble_of_checked checked]
  exact ⟨rfl, rfl⟩

namespace Session

variable {s : Session} {name : String} {q : Chain}

theorem step_stream (chain : s.chains.get? name = some q) (h : String) (how : Opening)
    (runtime : Bool) :
    s.step (.stream name h how runtime) = s.openStream name h q how runtime := by
  change s.withChain name _ = _
  rw [withChain, chain]

theorem refused_of_error (chain : s.chains.get? name = some q) (h : String) {how : Opening}
    {runtime : Bool} {f : Failure}
    (failed : (q.stream how.action how.withCallback runtime s.link).result = .error f)
    (link : (q.stream how.action how.withCallback runtime s.link).link = s.link) :
    Refused s f (s.step (.stream name h how runtime)) := by
  rw [step_stream chain, openStream, failed]
  exact ⟨rfl, link, rfl⟩

theorem opened_of_checked (chain : s.chains.get? name = some q) (h : String) (how : Opening)
    (checked : q.settings.strict = true → q.check = .ok ()) :
    Opened s q h how (s.step (.stream name h how true)) := by
  obtain ⟨result, link⟩ := Chain.stream_of_checked checked how.action how.withCallback s.link
  have done : (s.step (.stream name h how true)).answer = .done := by
    rw [step_stream chain, openStream, result]
  have begun := get?_opened done
  refine ⟨done, ?_, ⟨_, begun, rfl, rfl, rfl⟩, fun steps kept unrun => ?_⟩
  · rw [step_stream chain, openStream, result]
    exact link
  · have all := letOut_append_held begun kept
    have still : .run ∉ steps.flatMap (Step.moves h) := by
      intro member
      obtain ⟨step, within, runs⟩ := List.mem_flatMap.mp member
      have never := unrun step within
      rw [step.run_mem_moves_iff.mp runs] at never
      cases never
    rw [Feed.afterSteps, Feed.held_moves_of_unrun still] at all
    exact List.append_left_eq_self.mp all

/-- Whether there is a callback shows neither in the answer nor on the link nor in the log. -/
theorem openStream_callback (s : Session) (name h : String) (q : Chain) (action : String)
    (runtime : Bool) :
    let plain := s.openStream name h q (.stream action) runtime
    let called := s.openStream name h q (.streamWith action) runtime
    called.answer = plain.answer ∧ called.session.link = plain.session.link ∧
      called.records = plain.records := by
  intro plain called
  simp only [plain, called, openStream, Chain.stream, Opening.action]
  cases q.assemble action with
  | error f => exact ⟨rfl, rfl, rfl⟩
  | ok sentence => cases runtime <;> exact ⟨rfl, rfl, rfl⟩

end Session

/-- Opening a stream is all or nothing. Under strict settings a filter without balance is refused,
whether or not something could run the feed; else a stream that nothing runs is refused; and any
other is opened. A callback changes nothing of this, nor of how the stream goes on after it; it is
given, row by row, what is received or waits to be received without it. A subscription is a stream
with a callback and no action. -/
theorem opening_all_or_nothing {s : Session} {name : String} {q : Chain}
    (chain : s.chains.get? name = some q) (h : String) :
    (∀ (how : Opening) (runtime : Bool) (short : Shortfall), q.settings.strict = true →
      q.check = .error short →
      Refused s (.malformed short.message) (s.step (.stream name h how runtime))) ∧
    (∀ how : Opening, (q.settings.strict = true → q.check = .ok ()) →
      (∃ text, Refused s (.transport text) (s.step (.stream name h how false))) ∧
      Opened s q h how (s.step (.stream name h how true))) ∧
    (∀ (action : String) (runtime : Bool),
      let plain := s.step (.stream name h (.stream action) runtime)
      let called := s.step (.stream name h (.streamWith action) runtime)
      called.answer = plain.answer ∧ called.session.link = plain.session.link ∧
        called.records = plain.records ∧
        (plain.answer = .done → ∀ steps : List Step, (∀ step ∈ steps, step.keeps h = true) →
          ∃ f g, (plain.session.after steps).feeds.get? h = some f ∧
            (called.session.after steps).feeds.get? h = some g ∧ f.Twins g ∧
            g.outlet.deliveries =
              (((plain.session.transcript steps).receipts h).filterMap Received.row? ++
                f.outlet.waiting).map .ok)) ∧
    ∀ runtime : Bool, s.step (.stream name h .subscribe runtime) =
      s.step (.stream name h (.streamWith "") runtime) := by
  refine ⟨?_, ?_, ?_, fun _ => rfl⟩
  · intro how runtime short strict unbalanced
    have refused := Chain.stream_of_error strict unbalanced how.action how.withCallback runtime
      s.link
    exact Session.refused_of_error chain h (by rw [refused]; rfl) (by rw [refused]; rfl)
  · intro how checked
    obtain ⟨failed, link⟩ :=
      Chain.stream_without_runtime checked how.action how.withCallback s.link
    exact ⟨⟨_, Session.refused_of_error chain h failed link⟩,
      Session.opened_of_checked chain h how checked⟩
  · intro action runtime plain called
    obtain ⟨answer, link, records⟩ := s.openStream_callback name h q action runtime
    rw [← Session.step_stream chain, ← Session.step_stream chain] at answer link records
    refine ⟨answer, link, records, fun done steps kept => ?_⟩
    have begun := Session.get?_opened done
    have begun' := Session.get?_opened (answer.trans done)
    refine ⟨_, _, Session.get?_after begun kept, Session.get?_after begun' kept, ?_, ?_⟩
    · exact (Feed.fresh_twins _ _ _).moves _
    · rw [Session.receipts_transcript begun kept]
      exact Feed.deliveries_eq_queued s.link.streamRows (steps.flatMap (Step.moves h))

/-- A checked chain under strict settings, and a stream that is paused before its first run. -/
theorem opening_all_or_nothing_paused :
    let row (name : String) : Row := Dict.empty.insert "name" name
    let q := (Chain.on "/interface" { strict := true }).apply (.given (.key "running"))
    let s : Session :=
      { link := { streamRows := [row "ether1", row "ether2"] }
        chains := Dict.empty.insert "q" q }
    let steps : List Step :=
      [.drive "h" .pause, .settle, .drive "h" .resume, .setStreamRows [], .drive "h" .receive]
    let plain := s.step (.stream "q" "h" (.stream "/listen") true)
    let called := s.step (.stream "q" "h" (.streamWith "/listen") true)
    let received := ((plain.session.transcript steps).receipts "h").filterMap Received.row?
    s.chains.get? "q" = some q ∧ (q.settings.strict = true → q.check = .ok ()) ∧
      (∀ step ∈ steps, step.keeps "h" = true) ∧
      Opened s q "h" (.streamWith "/listen") called ∧ received = [row "ether1"] ∧
      ∃ f g, (plain.session.after steps).feeds.get? "h" = some f ∧
        (called.session.after steps).feeds.get? "h" = some g ∧
        g.outlet.deliveries = (received ++ f.outlet.waiting).map .ok := by
  intro row q s steps plain called received
  have chain : s.chains.get? "q" = some q := by rfl
  have checked : q.settings.strict = true → q.check = .ok () := fun _ => by rfl
  have kept : ∀ step ∈ steps, step.keeps "h" = true := by decide
  obtain ⟨-, opening, callback, -⟩ := opening_all_or_nothing chain "h"
  have opened := (opening (.streamWith "/listen") checked).2
  obtain ⟨-, -, -, alike⟩ := callback "/listen" true
  obtain ⟨f, g, there, there', -, given⟩ := alike (by rfl) steps kept
  exact ⟨chain, checked, kept, opened, by decide, f, g, there, there', given⟩

end DeviceQuery
