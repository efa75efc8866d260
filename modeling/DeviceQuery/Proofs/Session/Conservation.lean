import DeviceQuery.Proofs.Session.Feeds

/-!
# A stream keeps its rows

Whatever a session does after a stream has been opened, the rows received from it or delivered to
its callback, those that wait and those still held are the rows that the link had for it, each once
and in their order. What waits is received first, also from a feed that is paused or has been
stopped (`rows_conserved`).
-/

namespace DeviceQuery

/-- Without a callback the rows received, those that wait and those held are the rows of the
opening. With one the rows delivered, each as it is, and those held are, and nothing is received.
Rows that wait are what the next receives get, one after the other. -/
theorem rows_conserved (s : Session) (name h : String) (how : Opening) (runtime : Bool)
    (opened : (s.step (.stream name h how runtime)).answer = .done) (steps : List Step)
    (kept : ∀ step ∈ steps, step.keeps h = true) :
    let start := (s.step (.stream name h how runtime)).session
    let received := ((start.transcript steps).receipts h).filterMap Received.row?
    ∃ f, (start.after steps).feeds.get? h = some f ∧
      (how.withCallback = false →
        received ++ f.outlet.waiting ++ f.held = s.link.streamRows ∧ f.outlet.deliveries = []) ∧
      (how.withCallback = true →
        ∃ emitted, f.outlet.deliveries = emitted.map .ok ∧
          emitted ++ f.held = s.link.streamRows ∧ received = []) ∧
      ∀ later : List Step, (∀ step ∈ later, step.keeps h = true) →
        let next := ((start.after steps).transcript later).receipts h
        next.take f.outlet.waiting.length =
          (f.outlet.waiting.take next.length).map .row := by
  intro start received
  have begun := Session.get?_opened opened
  have there := Session.get?_after begun kept
  have handed := Session.receipts_transcript begun kept
  refine ⟨_, there, ?_, ?_, ?_⟩
  · intro plain
    have queue : (Feed.fresh s.link.streamRows how.withCallback).outlet = .queue [] := by
      simp [Feed.fresh, plain]
    obtain ⟨waiting, outlet, together⟩ := Feed.moves_queue queue (steps.flatMap (Step.moves h))
    rw [Feed.afterSteps, outlet]
    refine ⟨?_, rfl⟩
    simpa [received, start, handed, Feed.fresh, Outlet.waiting] using together
  · intro called
    have callback : (Feed.fresh s.link.streamRows how.withCallback).outlet = .callback [] := by
      simp [Feed.fresh, called]
    obtain ⟨emitted, outlet, together, unreceived⟩ :=
      Feed.moves_callback callback (steps.flatMap (Step.moves h))
    refine ⟨emitted, by rw [Feed.afterSteps, outlet]; rfl, together, ?_⟩
    rw [← unreceived, ← handed]
  · intro later keptLater next
    have handedLater : next = _ := Session.receipts_transcript there keptLater
    rw [handedLater]
    exact Feed.receipts_of_waiting (List.prefix_refl _) _

/-- Two rows held through a pause: one is received, and the other one still waits after a stop. -/
theorem rows_conserved_stopped :
    let row (name : String) : Row := Dict.empty.insert "name" name
    let s : Session :=
      { link := { streamRows := [row "ether1", row "ether2"] }
        chains := Dict.empty.insert "q" (Chain.on "/interface" {}) }
    let steps : List Step :=
      [.drive "h" .pause, .drive "h" .receive, .setStreamRows [], .drive "h" .resume,
        .drive "h" .receive, .drive "h" .stop]
    let start := (s.step (.stream "q" "h" (.stream "/listen") true)).session
    let received := ((start.transcript steps).receipts "h").filterMap Received.row?
    (s.step (.stream "q" "h" (.stream "/listen") true)).answer = .done ∧
      (∀ step ∈ steps, step.keeps "h" = true) ∧ received = [row "ether1"] ∧
      ∃ f, (start.after steps).feeds.get? "h" = some f ∧
        received ++ f.outlet.waiting ++ f.held = [row "ether1", row "ether2"] := by
  intro row s steps start received
  have opened : (s.step (.stream "q" "h" (.stream "/listen") true)).answer = .done := by rfl
  have kept : ∀ step ∈ steps, step.keeps "h" = true := by decide
  obtain ⟨f, there, plain, -⟩ := rows_conserved s "q" "h" _ true opened steps kept
  exact ⟨opened, kept, by decide, f, there, (plain rfl).1⟩

end DeviceQuery
