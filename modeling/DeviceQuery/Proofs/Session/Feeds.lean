import DeviceQuery.Proofs.Feed.Moves
import DeviceQuery.Session

/-!
# A session seen from one of its feeds

A step of a session comes down to some moves of the feed of a name, and nothing else that the step
does reaches this feed: neither the link nor the chains nor the other feeds (`get?_step`). So a
whole run of a session comes down to the moves that its steps come down to, one after the other
(`get?_after`), and what is received from the feed is what these moves hand out
(`receipts_transcript`).
-/

namespace DeviceQuery

/-! ## Runs of a session -/

namespace Session

/-- The session after some steps. -/
def after (s : Session) (steps : List Step) : Session :=
  steps.foldl (fun s step => (s.step step).session) s

/-- What some steps log, in order. -/
def log (s : Session) (steps : List Step) : List Log.Record :=
  (s.run steps).flatMap Outcome.records

end Session

/-- Steps with their answers, in order. -/
abbrev Transcript := List (Step × Answer)

/-- What some steps are answered. -/
def Session.transcript (s : Session) (steps : List Step) : Transcript :=
  steps.zip ((s.run steps).map Outcome.answer)

namespace Session

@[simp] theorem after_nil (s : Session) : s.after [] = s := rfl

@[simp] theorem after_cons (s : Session) (step : Step) (rest : List Step) :
    s.after (step :: rest) = (s.step step).session.after rest := rfl

@[simp] theorem log_cons (s : Session) (step : Step) (rest : List Step) :
    s.log (step :: rest) = (s.step step).records ++ (s.step step).session.log rest := rfl

@[simp] theorem transcript_cons (s : Session) (step : Step) (rest : List Step) :
    s.transcript (step :: rest) =
      (step, (s.step step).answer) :: (s.step step).session.transcript rest := rfl

end Session

/-- What was received from a feed, if anything was. -/
def receipt? (h : String) : Step × Answer → Option Received
  | (.drive feed .receive, .received r) => if feed = h then some r else none
  | _ => none

/-- What the receives from a feed got, in order. -/
def Transcript.receipts (t : Transcript) (h : String) : List Received := t.filterMap (receipt? h)

theorem receipt?_of_ne {h : String} {step : Step} (others : step ≠ .drive h .receive)
    (a : Answer) : receipt? h (step, a) = none := by
  unfold receipt?
  split
  · next feed r same =>
    cases same
    rw [if_neg]
    rintro rfl
    exact others rfl
  · rfl

/-! ## What a step is for a feed -/

/-- The move that a feed makes where it is paused, resumed or stopped. -/
def Drive.steers : Drive → Option Move
  | pause => some .pause
  | resume => some .resume
  | stop => some .stop
  | _ => none

namespace Step

/-- The feed of a name is still the same one after the step: it is neither closed nor is a stream
opened under its name. -/
def keeps (h : String) : Step → Bool
  | drive feed .close | stream _ feed _ _ => feed ≠ h
  | _ => true

/-- Feeds are run in the step. -/
def runs : Step → Bool
  | settle | drive _ .receive => true
  | _ => false

/-- What the step does to the feed of a name. -/
def moves (h : String) : Step → List Move
  | settle => [.run]
  | drive feed .receive => if feed = h then [.run, .receive] else [.run]
  | drive feed what => if feed = h then what.steers.toList else []
  | _ => []

/-- A feed is paused, resumed or stopped by nobody but those who drive it. -/
theorem mem_moves_iff {h : String} (what : Drive) {m : Move} (steers : what.steers = some m)
    (step : Step) : m ∈ step.moves h ↔ step = .drive h what := by
  cases step with
  | drive feed other =>
    by_cases same : feed = h <;>
      cases what <;> cases steers <;> cases other <;> simp [moves, same, Drive.steers]
  | _ => cases what <;> cases steers <;> simp [moves]

theorem mem_flatMap_moves_iff {h : String} (what : Drive) {m : Move}
    (steers : what.steers = some m) (steps : List Step) :
    m ∈ steps.flatMap (moves h) ↔ .drive h what ∈ steps := by
  simp [List.mem_flatMap, mem_moves_iff what steers]

end Step

/-- What a feed of a name has become after some steps. -/
def Feed.afterSteps (f : Feed) (h : String) (steps : List Step) : Feed :=
  f.moves (steps.flatMap (Step.moves h))

namespace Feed

theorem afterSteps_cons (f : Feed) (h : String) (step : Step) (rest : List Step) :
    f.afterSteps h (step :: rest) = (f.moves (step.moves h)).afterSteps h rest := by
  rw [afterSteps, List.flatMap_cons, moves_append, afterSteps]

theorem afterSteps_append (f : Feed) (h : String) (first rest : List Step) :
    f.afterSteps h (first ++ rest) = (f.afterSteps h first).afterSteps h rest := by
  rw [afterSteps, List.flatMap_append, moves_append, afterSteps, afterSteps]

theorem afterSteps_singleton (f : Feed) (h : String) (step : Step) :
    f.afterSteps h [step] = f.moves (step.moves h) := by
  rw [afterSteps, List.flatMap_singleton]

end Feed

namespace Session

variable {s : Session} {h : String} {f : Feed}

theorem get?_runFeeds (s : Session) (h : String) :
    s.runFeeds.feeds.get? h = (s.feeds.get? h).map Feed.run := Dict.get?_map _ _ _

theorem get?_setFeed (s : Session) (name h : String) (f : Feed) :
    (s.setFeed name f).feeds.get? h = if h = name then some f else s.feeds.get? h :=
  Dict.get?_insert _ _ _ _

theorem get?_driveFeed_other {name : String} (other : name ≠ h) (s : Session) (f : Feed)
    (what : Drive) : (s.driveFeed name f what).session.feeds.get? h = s.feeds.get? h := by
  have set (g : Feed) : (s.setFeed name g).feeds.get? h = s.feeds.get? h := by
    rw [get?_setFeed, if_neg (Ne.symm other)]
  have turned (control : Control) :
      (s.turn name f control).session.feeds.get? h = s.feeds.get? h := by
    unfold turn
    split
    · exact set _
    · rfl
  cases what with
  | receive => exact set _
  | pause => exact turned .paused
  | resume => exact turned .running
  | stop => exact set _
  | control | finished | given => rfl
  | close => exact (Dict.get?_erase _ _ _).trans (if_neg (Ne.symm other))

theorem get?_turn (there : s.feeds.get? h = some f) (control : Control) :
    (s.turn h f control).session.feeds.get? h =
      some ((f.turn control).toOption.getD f) := by
  unfold turn
  cases f.turn control with
  | ok g => simp [get?_setFeed, Except.toOption]
  | error e => simp [there, Except.toOption]

theorem get?_beforeDrive (there : s.feeds.get? h = some f) (what : Drive) :
    (s.beforeDrive what).feeds.get? h = some (if what matches .receive then f.run else f) := by
  cases what with
  | receive =>
    rw [beforeDrive, get?_runFeeds, there]
    rfl
  | _ => exact there

theorem step_drive (there : s.feeds.get? h = some f) (what : Drive) :
    s.step (.drive h what) =
      (s.beforeDrive what).driveFeed h (if what matches .receive then f.run else f) what := by
  change (s.beforeDrive what).withFeed h _ = _
  rw [withFeed, get?_beforeDrive there]

/-- A step that drives another feed is at most a run. -/
theorem get?_step_other (there : s.feeds.get? h = some f) {feed : String} (other : feed ≠ h)
    (what : Drive) :
    (s.step (.drive feed what)).session.feeds.get? h =
      some (if what matches .receive then f.run else f) := by
  change ((s.beforeDrive what).withFeed feed _).session.feeds.get? h = _
  unfold withFeed
  split
  · rw [get?_driveFeed_other other]
    exact get?_beforeDrive there what
  · exact get?_beforeDrive there what

/-- What a step does to the feed of a name are the moves that it comes down to. -/
theorem get?_step (there : s.feeds.get? h = some f) {step : Step} (kept : step.keeps h = true) :
    (s.step step).session.feeds.get? h = some (f.moves (step.moves h)) := by
  -- who works with a chain reaches the feeds only by opening a stream
  have chained (name : String) (next : Chain → Outcome)
      (same : ∀ q, (next q).session.feeds.get? h = some f) :
      (s.withChain name next).session.feeds.get? h = some f := by
    unfold withChain
    split
    · exact same _
    · exact there
  cases step with
  | pushReply | setStreamRows | written | streamed | write | create | menu => exact there
  | copy name target => exact chained _ _ fun _ => there
  | inspect name what => exact chained _ _ fun _ => there
  | call name call => exact chained _ _ fun _ => there
  | request name r => exact chained _ _ fun _ => there
  | stream name feed how runtime =>
    have other : h ≠ feed := fun same => by simp [Step.keeps, same] at kept
    refine chained _ _ fun q => ?_
    unfold openStream
    dsimp only
    split
    · rw [get?_setFeed, if_neg other]
      exact there
    · exact there
  | settle =>
    change s.runFeeds.feeds.get? h = some f.run
    rw [get?_runFeeds, there, Option.map_some]
  | drive feed what =>
    by_cases same : feed = h
    · subst same
      rw [step_drive there]
      have before := get?_beforeDrive there what
      cases what with
      | receive => simp [driveFeed, get?_setFeed, Step.moves, Feed.move]
      | pause =>
        simpa [driveFeed, Step.moves, Drive.steers, Feed.move] using get?_turn before .paused
      | resume =>
        simpa [driveFeed, Step.moves, Drive.steers, Feed.move] using get?_turn before .running
      | stop => simp [driveFeed, get?_setFeed, Step.moves, Drive.steers, Feed.move]
      | control | finished | given => simpa [driveFeed, Step.moves, Drive.steers] using before
      | close => simp [Step.keeps] at kept
    · rw [get?_step_other there same]
      cases what <;> simp [Step.moves, same, Feed.move]

theorem get?_after (there : s.feeds.get? h = some f) {steps : List Step}
    (kept : ∀ step ∈ steps, step.keeps h = true) :
    (s.after steps).feeds.get? h = some (f.afterSteps h steps) := by
  induction steps generalizing s f with
  | nil => exact there
  | cons step rest ih =>
    obtain ⟨first, later⟩ := List.forall_mem_cons.mp kept
    rw [after_cons, ih (get?_step there first) later, Feed.afterSteps_cons]

/-! ## Answers -/

theorem answer_receive (there : s.feeds.get? h = some f) :
    (s.step (.drive h .receive)).answer = .received f.run.receive.1 := by
  rw [step_drive there]
  rfl

theorem receipt?_step (there : s.feeds.get? h = some f) (step : Step) :
    (receipt? h (step, (s.step step).answer)).toList = f.receipts (step.moves h) := by
  by_cases received : step = .drive h .receive
  · subst received
    rw [answer_receive there]
    simp [receipt?, Step.moves, Feed.receipts, Feed.receipt, Feed.move]
  · rw [receipt?_of_ne received]
    cases step with
    | drive feed what =>
      by_cases same : feed = h
      · subst same
        cases what with
        | receive => exact absurd rfl received
        | _ => simp [Step.moves, Drive.steers, Feed.receipts, Feed.receipt]
      · cases what <;> simp [Step.moves, same, Feed.receipts, Feed.receipt]
    | _ => rfl

theorem receipts_transcript (there : s.feeds.get? h = some f) {steps : List Step}
    (kept : ∀ step ∈ steps, step.keeps h = true) :
    (s.transcript steps).receipts h = f.receipts (steps.flatMap (Step.moves h)) := by
  induction steps generalizing s f with
  | nil => rfl
  | cons step rest ih =>
    obtain ⟨first, later⟩ := List.forall_mem_cons.mp kept
    have next := ih (get?_step there first) later
    rw [List.flatMap_cons, Feed.receipts_append, ← next, ← receipt?_step there, transcript_cons,
      Transcript.receipts, List.filterMap_cons]
    cases receipt? h (step, (s.step step).answer) <;> rfl

/-! ## The opening -/

/-- A stream that has been opened is a fresh feed of the rows that the link had for it. -/
theorem get?_opened {name : String} {how : Opening} {runtime : Bool}
    (opened : (s.step (.stream name h how runtime)).answer = .done) :
    (s.step (.stream name h how runtime)).session.feeds.get? h =
      some (Feed.fresh s.link.streamRows how.withCallback) := by
  change (s.withChain name fun q => s.openStream name h q how runtime).answer = _ at opened
  change (s.withChain name fun q => s.openStream name h q how runtime).session.feeds.get? h = _
  unfold withChain at opened ⊢
  cases chain : s.chains.get? name with
  | none => simp [chain] at opened
  | some q =>
    simp only [chain] at opened ⊢
    -- the answer tells that neither the check of the filter nor the link stood in the way
    unfold openStream Chain.stream at opened ⊢
    cases assembled : q.assemble how.action with
    | error e => simp [assembled, Exchange.refused] at opened
    | ok words =>
      cases runtime with
      | false => simp [assembled, Link.stream] at opened
      | true => simp [Link.stream, get?_setFeed]

end Session

end DeviceQuery
