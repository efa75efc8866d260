import DeviceQuery.Proofs.Session.Feeds

/-!
# Streams do not disturb each other

What is answered about one stream follows from what it was opened with and from the moments that
concern it: the runs of the feeds, each with the state of the stream at that time, and the questions
asked of it (`sights_eq_watch`). So two sessions that agree on these agree on all answers about the
stream, whatever else they do (`streams_isolated`). Nor does it matter in which order the feeds make
their steps in a run (`feeds_of_schedule`).
-/

namespace DeviceQuery

/-- What concerns a stream: the feeds are run, it is received from after such a run, or it is asked
what its callback was given or whether it is over. A run finds the stream in some state. -/
inductive Moment where
  | run (control : Control)
  | receive (control : Control)
  | given
  | finished
deriving DecidableEq

/-- The moment that a step is for the feed of a name, which is in some state. -/
def Step.moment? (h : String) (control : Control) : Step → Option Moment
  | settle => some (.run control)
  | drive feed .receive => some (if feed = h then .receive control else .run control)
  | drive feed .given => if feed = h then some .given else none
  | drive feed .finished => if feed = h then some .finished else none
  | _ => none

/-- The moments of some steps for the feed of a name. -/
def Session.moments (s : Session) (h : String) : List Step → List Moment
  | [] => []
  | step :: rest =>
    ((s.feeds.get? h).bind fun f => step.moment? h f.control).toList ++
      (s.step step).session.moments h rest

/-- What is answered about a feed, if it is asked for what it got, was given or whether it is
over. -/
def sight? (h : String) : Step × Answer → Option Answer
  | (.drive feed .receive, a) | (.drive feed .given, a) | (.drive feed .finished, a) =>
    if feed = h then some a else none
  | _ => none

/-- What is answered about a feed, in order. -/
def Transcript.sights (t : Transcript) (h : String) : List Answer := t.filterMap (sight? h)

theorem Transcript.sights_cons (first : Step × Answer) (rest : Transcript) (h : String) :
    Transcript.sights (first :: rest) h = (sight? h first).toList ++ rest.sights h := by
  rw [sights, List.filterMap_cons]
  cases sight? h first <;> rfl

namespace Surface

/-- Takes the oldest row that waits. -/
def receive (s : Surface) : Received × Surface :=
  match s.outlet with
  | .queue (row :: rest) => (.row row, { s with outlet := .queue rest })
  | _ => (if s.finished then .ended else .nothing, s)

/-- A surface after a moment. -/
def pass (s : Surface) : Moment → Surface
  | .run control => s.run control
  | .receive control => (s.run control).receive.2
  | .given | .finished => s

/-- What can be seen of a surface at a moment. -/
def sight? (s : Surface) : Moment → Option Answer
  | .run _ => none
  | .receive control => some (.received (s.run control).receive.1)
  | .given => some (.given s.outlet.given)
  | .finished => some (.finished s.finished)

/-- What can be seen of a surface at some moments, in order. -/
def watch (s : Surface) : List Moment → List Answer
  | [] => []
  | m :: rest => (s.sight? m).toList ++ (s.pass m).watch rest

end Surface

namespace Feed

theorem surface_receive (f : Feed) :
    f.receive.1 = f.surface.receive.1 ∧ f.receive.2.surface = f.surface.receive.2 := by
  unfold receive Surface.receive
  cases outlet : f.outlet with
  | queue waiting => cases waiting <;> simp [surface, outlet, finished]
  | callback deliveries => simp [surface, outlet]

theorem surface_steer (f : Feed) {m : Move} (notRun : m ≠ .run) (notReceive : m ≠ .receive) :
    (f.move m).surface = f.surface := by
  obtain ⟨held, stage, outlet⟩ := f.steer_spec notRun notReceive
  simp [surface, finished, held, stage, outlet]

/-- What a step does to the surface of a feed is what passes at the moment that it is. -/
theorem surface_step (f : Feed) (h : String) (step : Step) :
    (f.moves (step.moves h)).surface =
      (step.moment? h f.control).elim f.surface f.surface.pass := by
  have ran : (f.moves [.run]).surface = f.surface.run f.control := f.surface_run
  have steered {m : Move} (notRun : m ≠ .run) (notReceive : m ≠ .receive) :
      (f.moves [m]).surface = f.surface := f.surface_steer notRun notReceive
  cases step with
  | settle => exact ran
  | drive feed what =>
    by_cases same : feed = h
    · cases what with
      | receive =>
        simp only [Step.moves, Step.moment?, if_pos same]
        change f.run.receive.2.surface = (f.surface.run f.control).receive.2
        rw [(surface_receive _).2, f.surface_run]
      | pause | resume | stop =>
        simp only [Step.moves, if_pos same]
        exact steered (by simp) (by simp)
      | control | close => simp [Step.moves, Step.moment?, Drive.steers]
      | given | finished => simp [Step.moves, Step.moment?, same, Drive.steers, Surface.pass]
    · cases what with
      | receive => simpa [Step.moves, Step.moment?, same, Surface.pass] using ran
      | _ => simp [Step.moves, Step.moment?, same]
  | _ => rfl

end Feed

namespace Session

variable {s : Session} {h : String} {f : Feed}

theorem sight?_step (there : s.feeds.get? h = some f) (step : Step) :
    sight? h (step, (s.step step).answer) = (step.moment? h f.control).bind f.surface.sight? := by
  cases step with
  | drive feed what =>
    by_cases same : feed = h
    · subst same
      rw [step_drive there]
      cases what with
      | receive =>
        have received : f.run.receive.1 = (f.surface.run f.control).receive.1 := by
          rw [(Feed.surface_receive _).1, f.surface_run]
        simp [sight?, Step.moment?, driveFeed, Surface.sight?, received]
      | given | finished => simp [sight?, Step.moment?, driveFeed, Surface.sight?, Feed.surface]
      | _ => rfl
    · cases what <;> simp [sight?, Step.moment?, same, Surface.sight?]
  | _ => rfl

/-- What is answered about a feed is what can be seen of its surface at the moments that the steps
are. -/
theorem sights_eq_watch (there : s.feeds.get? h = some f) {steps : List Step}
    (kept : ∀ step ∈ steps, step.keeps h = true) :
    (s.transcript steps).sights h = f.surface.watch (s.moments h steps) := by
  induction steps generalizing s f with
  | nil => rfl
  | cons step rest ih =>
    obtain ⟨first, later⟩ := List.forall_mem_cons.mp kept
    have next := ih (get?_step there first) later
    -- the rest of the session is seen on the surface that the first moment leaves
    rw [f.surface_step] at next
    rw [transcript_cons, Transcript.sights_cons, sight?_step there, next, moments, there,
      Option.bind_some]
    cases step.moment? h f.control <;> rfl

/-! ## Feeds step by step -/

/-- Lets the feed of a name make one step of its replay. -/
def advanceFeed (s : Session) (name : String) : Session :=
  match s.feeds.get? name with
  | some f => s.setFeed name f.advance
  | none => s

theorem get?_advanceFeed (s : Session) (name h : String) :
    (s.advanceFeed name).feeds.get? h =
      (s.feeds.get? h).map fun f => if h = name then f.advance else f := by
  unfold advanceFeed
  split
  · next f there =>
    rw [get?_setFeed]
    split
    · next same => rw [same, there, Option.map_some]
    · simp
  · next missing =>
    by_cases same : h = name
    · rw [same, missing, Option.map_none]
    · simp [same]

theorem get?_schedule (s : Session) (schedule : List String) (h : String) :
    (schedule.foldl advanceFeed s).feeds.get? h =
      (s.feeds.get? h).map fun f => f.advanceBy (schedule.count h) := by
  induction schedule generalizing s with
  | nil => simp [Feed.advanceBy]
  | cons name rest ih =>
    rw [List.foldl_cons, ih, get?_advanceFeed, Option.map_map]
    congr 1
    funext f
    by_cases same : h = name
    · simp [same, Feed.advanceBy]
    · simp [same, Ne.symm same]

/-- In whatever order the feeds make their steps, once all of them are at rest they are where a run
takes them. -/
theorem feeds_of_schedule (s : Session) (schedule : List String)
    (atRest : ∀ h f, (schedule.foldl advanceFeed s).feeds.get? h = some f → f.advance = f)
    (h : String) :
    (schedule.foldl advanceFeed s).feeds.get? h = s.runFeeds.feeds.get? h := by
  rw [get?_runFeeds, get?_schedule]
  cases there : s.feeds.get? h with
  | none => rfl
  | some f =>
    have rest := atRest h (f.advanceBy (schedule.count h)) (by rw [get?_schedule, there]; rfl)
    rw [Option.map_some, Option.map_some, Feed.advanceBy_eq_run rest]

end Session

/-! ## Two sessions -/

/-- Two sessions open a stream with the same rows and both or neither with a callback. If its
moments in them are the same, so is all that is answered about it, whatever else is done to other
streams, chains and the link, and however often its state changes between two runs. A receive from a
name without a stream runs the feeds like any other. -/
theorem streams_isolated (s₁ s₂ : Session) (name₁ name₂ h : String) (how₁ how₂ : Opening)
    (runtime₁ runtime₂ : Bool)
    (opened₁ : (s₁.step (.stream name₁ h how₁ runtime₁)).answer = .done)
    (opened₂ : (s₂.step (.stream name₂ h how₂ runtime₂)).answer = .done)
    (sameRows : s₁.link.streamRows = s₂.link.streamRows)
    (sameCallback : how₁.withCallback = how₂.withCallback) (steps₁ steps₂ : List Step)
    (kept₁ : ∀ step ∈ steps₁, step.keeps h = true)
    (kept₂ : ∀ step ∈ steps₂, step.keeps h = true) :
    let start₁ := (s₁.step (.stream name₁ h how₁ runtime₁)).session
    let start₂ := (s₂.step (.stream name₂ h how₂ runtime₂)).session
    start₁.moments h steps₁ = start₂.moments h steps₂ →
      (start₁.transcript steps₁).sights h = (start₂.transcript steps₂).sights h := by
  intro start₁ start₂ sameMoments
  have begun₁ := Session.get?_opened opened₁
  have begun₂ := Session.get?_opened opened₂
  rw [Session.sights_eq_watch begun₁ kept₁, Session.sights_eq_watch begun₂ kept₂, sameMoments,
    sameRows, sameCallback]

/-- A stream is answered the same beside another one that is opened, run, stopped and closed, and
where it is paused and resumed before its first run. -/
theorem streams_isolated_neighbour :
    let row : Row := Dict.empty.insert "name" "ether1"
    let q := Chain.on "/interface" {}
    let alone : Session := { link := { streamRows := [row] }, chains := Dict.empty.insert "q" q }
    let shared : Session :=
      { link := { streamRows := [row] }, chains := (Dict.empty.insert "q" q).insert "p" q }
    let calm : List Step :=
      [.drive "h" .pause, .drive "h" .resume, .settle, .drive "h" .receive, .drive "h" .finished]
    let busy : List Step :=
      [.setStreamRows [], .stream "p" "other" .subscribe true, .drive "other" .stop,
        .drive "other" .receive, .drive "other" .close, .write ["/print"], .drive "h" .receive,
        .drive "h" .finished]
    let start₁ := (alone.step (.stream "q" "h" (.stream "/listen") true)).session
    let start₂ := (shared.step (.stream "q" "h" (.stream "") true)).session
    start₁.moments "h" calm = start₂.moments "h" busy ∧
      (start₁.transcript calm).sights "h" = (start₂.transcript busy).sights "h" ∧
      ((start₁.transcript calm).sights "h").length = 2 := by
  intro row q alone shared calm busy start₁ start₂
  have sameMoments : start₁.moments "h" calm = start₂.moments "h" busy := by decide
  have same := streams_isolated alone shared "q" "q" "h" (.stream "/listen") (.stream "") true true
    rfl rfl rfl rfl calm busy (by decide) (by decide) sameMoments
  exact ⟨sameMoments, same, rfl⟩

end DeviceQuery
