import DeviceQuery.Proofs.Session.Feeds

/-!
# The control of a stream

The steps of a session steer a stream through three states, of which the stopped one is for good.
The state alone decides what a run of the feeds lets out: all that is left where the stream is
running, and nothing where it is not. A stream is over after a run when it has been stopped or
nothing is left (`control_governs`).
-/

namespace DeviceQuery

/-- The control that a step asks for on the feed of a name. -/
def Step.asked (h : String) : Step → Option Control
  | drive feed .pause => if feed = h then some .paused else none
  | drive feed .resume => if feed = h then some .running else none
  | _ => none

/-- The rows that have been let out of the feed of a name, those received first. -/
def Session.letOut (s : Session) (h : String) (steps : List Step) : List Row :=
  ((s.transcript steps).receipts h).filterMap Received.row? ++
    ((s.after steps).feeds.get? h).elim [] fun f => f.outlet.rows

/-- What the state of a stream governs, from where it was opened with these rows. The feed that it
is after some steps is `feedAt` these steps. -/
structure Governed (start : Session) (h : String) (rows : List Row) (feedAt : List Step → Feed)
    (steps : List Step) : Prop where
  there : (start.after steps).feeds.get? h = some (feedAt steps)
  /-- The stream is stopped if a stop was made. -/
  stopped_iff : (feedAt steps).control = .stopped ↔ .drive h .stop ∈ steps
  /-- Else the last pause or resume counts, and without one the stream is running. -/
  control_eq : .drive h .stop ∉ steps →
    (feedAt steps).control = (steps.filterMap (Step.asked h)).getLast?.getD .running
  /-- The state and the end of a stream can be asked for. -/
  shown : ((start.after steps).step (.drive h .control)).answer =
      .control (feedAt steps).control ∧
    ((start.after steps).step (.drive h .finished)).answer = .finished (feedAt steps).finished
  /-- After a stop a pause and a resume fail and change nothing, and before one they do not. -/
  turning : ∀ what ∈ [Drive.pause, Drive.resume],
    (.drive h .stop ∈ steps → (start.after steps).step (.drive h what) =
      { answer := .failed .closed, session := start.after steps }) ∧
    (.drive h .stop ∉ steps → ((start.after steps).step (.drive h what)).answer = .done)
  /-- A stop never fails. -/
  stopping : ((start.after steps).step (.drive h .stop)).answer = .done
  /-- What has been let out and what is held are the rows of the opening. -/
  together : start.letOut h steps ++ (feedAt steps).held = rows
  /-- A row is let out where the feeds are run and the stream is running, and then all are. -/
  emission : ∀ step : Step, step.keeps h = true →
    start.letOut h (steps ++ [step]) =
      if step.runs = true ∧ (feedAt steps).control = .running then rows
      else start.letOut h steps
  /-- After a stop no row is let out, and after a pause none until a resume. -/
  idle : ∀ later : List Step, (∀ step ∈ later, step.keeps h = true) →
    .drive h .stop ∈ steps ∨ (feedAt steps).control = .paused ∧ .drive h .resume ∉ later →
    start.letOut h (steps ++ later) = start.letOut h steps
  /-- After a resume no row stays back in the next run. -/
  resumed : .drive h .stop ∉ steps → ∀ between : List Step,
    (∀ step ∈ between, step.keeps h = true) → .drive h .pause ∉ between →
    .drive h .stop ∉ between → ∀ step : Step, step.runs = true →
    start.letOut h (steps ++ .drive h .resume :: (between ++ [step])) = rows
  /-- After a run the stream is over if it has been stopped or has let out everything. -/
  finished_iff : ∀ step : Step, step.runs = true →
    ((feedAt (steps ++ [step])).finished = true ↔
      (feedAt (steps ++ [step])).control = .stopped ∨ start.letOut h (steps ++ [step]) = rows)
  /-- What is over stays so. -/
  finished_stays : (feedAt steps).finished = true → ∀ later : List Step,
    (∀ step ∈ later, step.keeps h = true) → (feedAt (steps ++ later)).finished = true
  /-- To receive gets the oldest row that waits once the feeds have been run; without one it tells
  whether the stream is over. -/
  receiving : ((start.after steps).step (.drive h .receive)).answer =
    .received (match (feedAt steps).run.outlet.waiting with
      | row :: _ => .row row
      | [] => if (feedAt steps).run.finished then .ended else .nothing)

namespace Feed

theorem receive_fst (f : Feed) :
    f.receive.1 =
      match f.outlet.waiting with
      | row :: _ => .row row
      | [] => if f.finished then .ended else .nothing := by
  unfold receive Outlet.waiting
  cases f.outlet with
  | queue waiting => cases waiting <;> rfl
  | callback deliveries => rfl

theorem finished_moves {f : Feed} (ended : f.finished = true) (all : List Move) :
    (f.moves all).finished = true := by
  induction all generalizing f with
  | nil => exact ended
  | cons m rest ih => exact ih (finished_move ended m)

/-- A step lets out rows if the feeds are run and this one is running, and then all. -/
theorem held_afterSteps_concat (f : Feed) (h : String) (steps : List Step) (step : Step) :
    (f.afterSteps h (steps ++ [step])).held =
      if step.runs = true ∧ (f.afterSteps h steps).control = .running then []
      else (f.afterSteps h steps).held := by
  rw [afterSteps_append, afterSteps_singleton]
  generalize f.afterSteps h steps = f
  cases step with
  | settle => simp [Step.moves, Step.runs, held_move]
  | drive feed what =>
    by_cases same : feed = h <;> cases what <;>
      simp [Step.moves, Step.runs, Drive.steers, same, held_move]
  | _ => simp [Step.moves, Step.runs]

/-- The moves of a step that runs the feeds are a run and what is received after it. -/
theorem moves_of_runs {h : String} {step : Step} (runs : step.runs = true) :
    step.moves h = [.run] ∨ step.moves h = [.run, .receive] := by
  cases step with
  | settle => exact .inl rfl
  | drive feed what =>
    cases what with
    | receive =>
      by_cases same : feed = h
      · exact .inr (if_pos same)
      · exact .inl (if_neg same)
    | _ => cases runs
  | _ => cases runs

theorem finished_moves_step (f : Feed) {h : String} {step : Step} (runs : step.runs = true) :
    (f.moves (step.moves h)).finished = true ↔
      (f.moves (step.moves h)).control = .stopped ∨ (f.moves (step.moves h)).held = [] := by
  have ran : f.run.finished = true ↔ f.run.control = .stopped ∨ f.run.held = [] := by
    rw [finished_run, run_control]
  rcases moves_of_runs (h := h) runs with moves | moves
  · rw [moves]
    exact ran
  · rw [moves]
    obtain ⟨control, held, stage⟩ := f.run.receive_spec
    change f.run.receive.2.finished = true ↔
      f.run.receive.2.control = .stopped ∨ f.run.receive.2.held = []
    rw [finished, control, held, stage]
    exact ran

end Feed

namespace Step

theorem keeps_of_runs {step : Step} (runs : step.runs = true) (h : String) :
    step.keeps h = true := by
  cases step with
  | settle => rfl
  | drive feed what =>
    cases what with
    | receive => rfl
    | _ => cases runs
  | _ => cases runs

theorem filterMap_asked_moves (h : String) (step : Step) :
    (step.moves h).filterMap Move.asked = (step.asked h).toList := by
  cases step with
  | drive feed what =>
    by_cases same : feed = h <;> cases what <;>
      simp [moves, asked, same, Drive.steers, Move.asked]
  | _ => rfl

theorem filterMap_asked (h : String) (steps : List Step) :
    (steps.flatMap (moves h)).filterMap Move.asked = steps.filterMap (asked h) := by
  induction steps with
  | nil => rfl
  | cons step rest ih =>
    rw [List.flatMap_cons, List.filterMap_append, filterMap_asked_moves, ih, List.filterMap_cons]
    cases step.asked h <;> rfl

end Step

namespace Session

variable {start : Session} {h : String} {rows : List Row} {withCallback : Bool}

theorem answer_pause_or_resume {s : Session} {f : Feed} (there : s.feeds.get? h = some f)
    {what : Drive} (turns : what ∈ [Drive.pause, Drive.resume]) :
    (f.control = .stopped →
      s.step (.drive h what) = { answer := .failed .closed, session := s }) ∧
    (f.control ≠ .stopped → (s.step (.drive h what)).answer = .done) := by
  rw [step_drive there]
  simp only [List.mem_cons, List.not_mem_nil, or_false] at turns
  constructor
  · intro stopped
    rcases turns with rfl | rfl <;> simp [driveFeed, turn, Feed.turn, stopped, beforeDrive]
  · intro going
    rcases turns with rfl | rfl <;> simp [driveFeed, turn, Feed.turn, going]

/-- What is let out in the session is what the moves of the feed let out. -/
theorem letOut_append_held (begun : start.feeds.get? h = some (Feed.fresh rows withCallback))
    {steps : List Step} (kept : ∀ step ∈ steps, step.keeps h = true) :
    start.letOut h steps ++ ((Feed.fresh rows withCallback).afterSteps h steps).held = rows := by
  have moved : start.letOut h steps =
      (Feed.fresh rows withCallback).letOut (steps.flatMap (Step.moves h)) := by
    rw [letOut, receipts_transcript begun kept, get?_after begun kept]
    rfl
  rw [moved]
  exact Feed.letOut_held rows withCallback _

theorem letOut_eq_rows_iff (begun : start.feeds.get? h = some (Feed.fresh rows withCallback))
    {steps : List Step} (kept : ∀ step ∈ steps, step.keeps h = true) :
    start.letOut h steps = rows ↔
      ((Feed.fresh rows withCallback).afterSteps h steps).held = [] := by
  have all := letOut_append_held begun kept
  constructor
  · intro out
    rw [out] at all
    exact List.append_right_eq_self.mp all
  · intro empty
    rwa [empty, List.append_nil] at all

theorem letOut_of_held_eq (begun : start.feeds.get? h = some (Feed.fresh rows withCallback))
    {steps later : List Step} (kept : ∀ step ∈ steps ++ later, step.keeps h = true)
    (held : ((Feed.fresh rows withCallback).afterSteps h (steps ++ later)).held =
      ((Feed.fresh rows withCallback).afterSteps h steps).held) :
    start.letOut h (steps ++ later) = start.letOut h steps := by
  have all := letOut_append_held begun kept
  have first := letOut_append_held begun (List.forall_mem_append.mp kept).1
  rw [held] at all
  exact List.append_cancel_right (all.trans first.symm)

theorem letOut_step (begun : start.feeds.get? h = some (Feed.fresh rows withCallback))
    {steps : List Step} {step : Step} (kept : ∀ x ∈ steps ++ [step], x.keeps h = true) :
    start.letOut h (steps ++ [step]) =
      if step.runs = true ∧
          ((Feed.fresh rows withCallback).afterSteps h steps).control = .running then rows
      else start.letOut h steps := by
  -- what is let out and what is held make up the rows, so it is enough to look at what is held
  have held := (Feed.fresh rows withCallback).held_afterSteps_concat h steps step
  split
  · next running =>
    rw [if_pos running] at held
    exact (letOut_eq_rows_iff begun kept).mpr held
  · next still =>
    rw [if_neg still] at held
    exact letOut_of_held_eq begun kept held

theorem letOut_idle (begun : start.feeds.get? h = some (Feed.fresh rows withCallback))
    {steps later : List Step} (kept : ∀ step ∈ steps ++ later, step.keeps h = true)
    (idle : ((Feed.fresh rows withCallback).afterSteps h steps).control = .stopped ∨
      ((Feed.fresh rows withCallback).afterSteps h steps).control = .paused ∧
        .drive h .resume ∉ later) :
    start.letOut h (steps ++ later) = start.letOut h steps := by
  refine letOut_of_held_eq begun kept ?_
  rw [Feed.afterSteps_append]
  refine Feed.held_moves_of_idle (idle.imp id fun ⟨paused, unresumed⟩ => ⟨paused, ?_⟩)
  rwa [Step.mem_flatMap_moves_iff .resume rfl]

theorem letOut_of_running (begun : start.feeds.get? h = some (Feed.fresh rows withCallback))
    {steps between : List Step} {step : Step} (runs : step.runs = true)
    (kept : ∀ x ∈ steps ++ between ++ [step], x.keeps h = true)
    (running : ((Feed.fresh rows withCallback).afterSteps h steps).control = .running)
    (unpaused : .drive h .pause ∉ between) (unstopped : .drive h .stop ∉ between) :
    start.letOut h (steps ++ between ++ [step]) = rows := by
  have still : ((Feed.fresh rows withCallback).afterSteps h (steps ++ between)).control =
      .running := by
    rw [Feed.afterSteps_append]
    apply Feed.control_moves_of_running running
    · rwa [Step.mem_flatMap_moves_iff .pause rfl]
    · rwa [Step.mem_flatMap_moves_iff .stop rfl]
  rw [letOut_step begun kept, if_pos ⟨runs, still⟩]

end Session

/-- The state of an opened stream follows from what was asked of it, and governs what is let out
and when the stream is over, whatever else the session does. -/
theorem control_governs (s : Session) (name h : String) (how : Opening) (runtime : Bool)
    (opened : (s.step (.stream name h how runtime)).answer = .done) :
    ∃ feedAt : List Step → Feed, ∀ steps : List Step, (∀ step ∈ steps, step.keeps h = true) →
      Governed (s.step (.stream name h how runtime)).session h s.link.streamRows feedAt steps := by
  have begun := Session.get?_opened opened
  generalize (s.step (.stream name h how runtime)).session = start at begun
  generalize s.link.streamRows = rows at begun
  refine ⟨(Feed.fresh rows how.withCallback).afterSteps h, fun steps kept => ?_⟩
  have there := Session.get?_after begun kept
  have stopped_iff : ((Feed.fresh rows how.withCallback).afterSteps h steps).control = .stopped ↔
      .drive h .stop ∈ steps := by
    rw [Feed.afterSteps, Feed.control_moves_eq_stopped_iff,
      Step.mem_flatMap_moves_iff .stop rfl]
    simp [Feed.fresh]
  exact
    { there
      stopped_iff
      control_eq := by
        intro going
        rw [← Step.filterMap_asked]
        refine Feed.control_moves (by simp [Feed.fresh]) ?_
        rwa [Step.mem_flatMap_moves_iff .stop rfl]
      shown := by
        rw [Session.step_drive there, Session.step_drive there]
        exact ⟨rfl, rfl⟩
      turning := by
        intro what turns
        obtain ⟨fails, works⟩ := Session.answer_pause_or_resume there turns
        exact ⟨fun stop => fails (stopped_iff.mpr stop),
          fun going => works fun stopped => going (stopped_iff.mp stopped)⟩
      stopping := by
        rw [Session.step_drive there]
        rfl
      together := Session.letOut_append_held begun kept
      emission := by
        intro step keptStep
        exact Session.letOut_step begun (List.forall_mem_append.mpr ⟨kept, by simpa⟩)
      idle := by
        intro later keptLater idle
        exact Session.letOut_idle begun (List.forall_mem_append.mpr ⟨kept, keptLater⟩)
          (idle.imp_left stopped_iff.mpr)
      resumed := by
        intro going between keptBetween unpaused unstopped step runs
        have keptAll : ∀ x ∈ steps ++ [.drive h .resume] ++ between ++ [step],
            x.keeps h = true := by
          simp only [List.forall_mem_append, List.forall_mem_singleton]
          exact ⟨⟨⟨kept, rfl⟩, keptBetween⟩, Step.keeps_of_runs runs h⟩
        have running : ((Feed.fresh rows how.withCallback).afterSteps h
            (steps ++ [.drive h .resume])).control = .running := by
          have unstopped' := mt stopped_iff.mp going
          rw [Feed.afterSteps_append, Feed.afterSteps_singleton]
          simp [Step.moves, Drive.steers, Feed.control_move, Move.asked, unstopped']
        have out := Session.letOut_of_running begun runs keptAll running unpaused unstopped
        simpa using out
      finished_iff := by
        intro step runs
        rw [Session.letOut_eq_rows_iff begun (List.forall_mem_append.mpr
          ⟨kept, by simpa using Step.keeps_of_runs runs h⟩), Feed.afterSteps_append,
          Feed.afterSteps_singleton]
        exact Feed.finished_moves_step _ runs
      finished_stays := by
        intro ended later _
        rw [Feed.afterSteps_append]
        exact Feed.finished_moves ended _
      receiving := by
        rw [Session.answer_receive there, Feed.receive_fst] }

/-- A stream that is paused before its first run holds its row back, and a receive from a stream
that is not there is run enough for it once it has been resumed. -/
theorem control_governs_resumed :
    let row : Row := Dict.empty.insert "name" "ether1"
    let s : Session :=
      { link := { streamRows := [row] }
        chains := Dict.empty.insert "q" (Chain.on "/interface" {}) }
    let start := (s.step (.stream "q" "h" .subscribe true)).session
    let paused : List Step := [.drive "h" .pause, .settle]
    (s.step (.stream "q" "h" .subscribe true)).answer = .done ∧
      (∀ step ∈ paused, step.keeps "h" = true) ∧ start.letOut "h" paused = [] ∧
      start.letOut "h" (paused ++ .drive "h" .resume :: ([] ++ [.drive "other" .receive])) =
        [row] := by
  intro row s start paused
  have opened : (s.step (.stream "q" "h" .subscribe true)).answer = .done := by rfl
  have kept : ∀ step ∈ paused, step.keeps "h" = true := by decide
  obtain ⟨feedAt, governed⟩ := control_governs s "q" "h" .subscribe true opened
  refine ⟨opened, kept, by decide, (governed paused kept).resumed ?_ [] ?_ ?_ ?_ _ rfl⟩ <;>
    simp [paused]

end DeviceQuery
