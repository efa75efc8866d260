import DeviceQuery.Proofs.Feed.Run

/-!
# What is done to a feed

A feed is run, received from, paused, resumed and stopped, in any order. The rows received, those
in the outlet and those held are together always the rows that the feed began with, in their order
(`moves_queue`, `moves_callback`); rows that wait are received first, whatever comes in between
(`receipts_of_waiting`). The control is what was asked for last, and once stopped it stays so
(`control_moves`). Rows are let out by a run of a running feed only, and then all of them
(`held_move`), and a feed is over after a run when nothing is left to wait for (`finished_run`).
-/

namespace DeviceQuery

/-- The rows that are in an outlet. -/
def Outlet.rows (o : Outlet) : List Row := o.waiting ++ o.given

@[simp] theorem Outlet.rows_queue (waiting : List Row) : (queue waiting).rows = waiting := by
  simp [rows, given, Outlet.waiting, deliveries]

@[simp] theorem Outlet.rows_callback (rows : List Row) :
    (callback (rows.map .ok)).rows = rows := by
  simp [Outlet.rows, given, waiting, deliveries, List.filterMap_map, Function.comp_def,
    Except.toOption]

/-- The row that a receiver got. -/
def Received.row? : Received → Option Row
  | row r => some r
  | _ => none

/-- What is done to a feed. -/
inductive Move where
  | run
  | receive
  | pause
  | resume
  | stop
deriving DecidableEq

/-- The control that a move asks for, where the feed has not been stopped. -/
def Move.asked : Move → Option Control
  | pause => some .paused
  | resume => some .running
  | _ => none

namespace Feed

/-- The feed after a move. A feed that has been stopped is not turned any more. -/
def move (f : Feed) : Move → Feed
  | .run => f.run
  | .receive => f.receive.2
  | .pause => (f.turn .paused).toOption.getD f
  | .resume => (f.turn .running).toOption.getD f
  | .stop => f.stop

/-- The feed after some moves. -/
def moves (f : Feed) (all : List Move) : Feed := all.foldl move f

/-- What a move hands to a receiver. -/
def receipt (f : Feed) : Move → List Received
  | .receive => [f.receive.1]
  | _ => []

/-- What some moves hand to receivers, in order. -/
def receipts (f : Feed) : List Move → List Received
  | [] => []
  | m :: rest => f.receipt m ++ (f.move m).receipts rest

@[simp] theorem moves_nil (f : Feed) : f.moves [] = f := rfl

@[simp] theorem moves_cons (f : Feed) (m : Move) (rest : List Move) :
    f.moves (m :: rest) = (f.move m).moves rest := rfl

theorem moves_append (f : Feed) (first rest : List Move) :
    f.moves (first ++ rest) = (f.moves first).moves rest := List.foldl_append

theorem receipts_append (f : Feed) (first rest : List Move) :
    f.receipts (first ++ rest) = f.receipts first ++ (f.moves first).receipts rest := by
  induction first generalizing f with
  | nil => rfl
  | cons m first ih =>
    rw [List.cons_append, receipts, ih, receipts, moves_cons, List.append_assoc]

/-! ## What a single move does -/

theorem run_held (f : Feed) :
    f.run.held = if f.control = .running then [] else f.held := by
  have left := congrArg Surface.held f.surface_run
  cases control : f.control <;> simpa [control, surface, Surface.run] using left

theorem run_outlet (f : Feed) :
    f.run.outlet = if f.control = .running then f.outlet.putAll f.held else f.outlet := by
  have left := congrArg Surface.outlet f.surface_run
  cases control : f.control <;> simpa [control, surface, Surface.run] using left

theorem finished_run (f : Feed) :
    f.run.finished = true ↔ f.control = .stopped ∨ f.run.held = [] := by
  have left := congrArg Surface.finished f.surface_run
  rw [run_held]
  cases control : f.control <;> simp_all [surface, Surface.run]

theorem receive_spec (f : Feed) :
    f.receive.2.control = f.control ∧ f.receive.2.held = f.held ∧
      f.receive.2.stage = f.stage := by
  unfold receive
  split <;> exact ⟨rfl, rfl, rfl⟩

theorem control_turn (f : Feed) (control : Control) :
    ((f.turn control).toOption.getD f).control =
      if f.control = .stopped then .stopped else control := by
  unfold turn
  by_cases stopped : f.control = .stopped <;> simp [stopped, Except.toOption, set]

/-- To pause, to resume and to stop change at most the control. -/
theorem steer_spec (f : Feed) {m : Move} (notRun : m ≠ .run) (notReceive : m ≠ .receive) :
    (f.move m).held = f.held ∧ (f.move m).stage = f.stage ∧ (f.move m).outlet = f.outlet := by
  have turned (control : Control) : let g := (f.turn control).toOption.getD f
      g.held = f.held ∧ g.stage = f.stage ∧ g.outlet = f.outlet := by
    unfold turn
    by_cases stopped : f.control = .stopped <;> simp [stopped, Except.toOption, set]
  cases m with
  | run => exact absurd rfl notRun
  | receive => exact absurd rfl notReceive
  | pause => exact turned .paused
  | resume => exact turned .running
  | stop => exact ⟨rfl, rfl, rfl⟩

theorem control_move (f : Feed) (m : Move) :
    (f.move m).control =
      if m = .stop ∨ f.control = .stopped then .stopped else m.asked.getD f.control := by
  cases m with
  | run => by_cases stopped : f.control = .stopped <;> simp [move, Move.asked, stopped]
  | receive =>
    by_cases stopped : f.control = .stopped <;>
      simp [move, Move.asked, f.receive_spec.1, stopped]
  | pause => simpa [move, Move.asked] using f.control_turn .paused
  | resume => simpa [move, Move.asked] using f.control_turn .running
  | stop => simp [move, stop, set]

/-- Rows are let out by a run of a running feed only, and then all of them. -/
theorem held_move (f : Feed) (m : Move) :
    (f.move m).held = if m = .run ∧ f.control = .running then [] else f.held := by
  cases m with
  | run => simp [move, run_held]
  | receive => simp [move, f.receive_spec.2.1]
  | pause | resume | stop =>
    rw [if_neg (by simp)]
    exact (f.steer_spec (by simp) (by simp)).1

theorem finished_move {f : Feed} (ended : f.finished = true) (m : Move) :
    (f.move m).finished = true := by
  cases m with
  | run =>
    rw [move, finished_run, run_held]
    rcases f.settled_of_ended (finished_iff.mp ended) with empty | stopped
    · simp [empty]
    · exact .inl stopped
  | receive => rwa [move, finished, f.receive_spec.2.2]
  | pause | resume | stop => rwa [finished, (f.steer_spec (by simp) (by simp)).2.1]

/-- Nobody but a receiver takes away what waits. -/
theorem waiting_move (f : Feed) {m : Move} (others : m ≠ .receive) :
    f.outlet.waiting <+: (f.move m).outlet.waiting := by
  by_cases run : m = .run
  · rw [run, move, run_outlet]
    split
    · cases f.outlet with
      | queue waiting =>
        rw [Outlet.putAll_queue]
        exact List.prefix_append waiting f.held
      | callback deliveries => exact List.nil_prefix
    · exact List.prefix_refl _
  · obtain ⟨-, -, outlet⟩ := f.steer_spec run others
    simp [outlet]

/-! ## Control -/

theorem control_moves_eq_stopped_iff (f : Feed) (all : List Move) :
    (f.moves all).control = .stopped ↔ f.control = .stopped ∨ .stop ∈ all := by
  induction all generalizing f with
  | nil => simp
  | cons m rest ih =>
    have first : (f.move m).control = .stopped ↔ f.control = .stopped ∨ .stop = m := by
      rw [control_move]
      cases m <;> by_cases stopped : f.control = .stopped <;> simp [Move.asked, stopped]
    rw [moves_cons, ih, first, List.mem_cons, or_assoc]

/-- Without a stop the control is the one asked for last. -/
theorem control_moves {f : Feed} {all : List Move} (going : f.control ≠ .stopped)
    (unstopped : .stop ∉ all) :
    (f.moves all).control = (all.filterMap Move.asked).getLast?.getD f.control := by
  induction all generalizing f with
  | nil => rfl
  | cons m rest ih =>
    rw [List.mem_cons, not_or] at unstopped
    have first : (f.move m).control = m.asked.getD f.control := by
      rw [control_move, if_neg]
      rintro (stop | stopped)
      · exact unstopped.1 stop.symm
      · exact going stopped
    have goingOn : (f.move m).control ≠ .stopped := by
      rw [first]
      cases m <;> simp [Move.asked, going]
    rw [moves_cons, ih goingOn unstopped.2, first]
    cases asked : m.asked with
    | none => simp [asked]
    | some control => simp [asked, List.getLast?_cons]

theorem control_moves_of_running {f : Feed} {all : List Move} (running : f.control = .running)
    (unpaused : .pause ∉ all) (unstopped : .stop ∉ all) : (f.moves all).control = .running := by
  induction all generalizing f with
  | nil => exact running
  | cons m rest ih =>
    rw [List.mem_cons, not_or] at unpaused unstopped
    refine ih ?_ unpaused.2 unstopped.2
    rw [control_move, running]
    cases m with
    | pause => exact absurd rfl unpaused.1
    | stop => exact absurd rfl unstopped.1
    | _ => simp [Move.asked]

/-- Nothing is let out of a feed that has been stopped, or is paused and not resumed. -/
theorem held_moves_of_idle {f : Feed} {all : List Move}
    (idle : f.control = .stopped ∨ f.control = .paused ∧ .resume ∉ all) :
    (f.moves all).held = f.held := by
  induction all generalizing f with
  | nil => rfl
  | cons m rest ih =>
    have first : (f.move m).held = f.held := by
      rw [held_move, if_neg]
      rintro ⟨-, running⟩
      rcases idle with stopped | ⟨paused, -⟩
      · rw [stopped] at running
        cases running
      · rw [paused] at running
        cases running
    rw [moves_cons, ih, first]
    -- the control is still such that nothing is let out
    rw [control_move]
    rcases idle with stopped | ⟨paused, unresumed⟩
    · simp [stopped]
    · rw [List.mem_cons, not_or] at unresumed
      cases m with
      | resume => exact absurd rfl unresumed.1
      | _ => simp [Move.asked, paused, unresumed.2]

/-! ## Where the rows are -/

theorem move_queue {f : Feed} {waiting : List Row} (queue : f.outlet = .queue waiting) (m : Move) :
    ∃ waiting', (f.move m).outlet = .queue waiting' ∧
      (f.receipt m).filterMap Received.row? ++ waiting' ++ (f.move m).held = waiting ++ f.held := by
  cases m with
  | run =>
    rw [move, run_outlet, run_held, queue]
    by_cases running : f.control = .running
    · exact ⟨waiting ++ f.held, by simp [running, Outlet.putAll_queue], by simp [receipt, running]⟩
    · exact ⟨waiting, by simp [running], by simp [receipt, running]⟩
  | receive =>
    cases waiting with
    | nil =>
      refine ⟨[], by simp [move, receive, queue], ?_⟩
      cases ended : f.finished <;> simp [move, receipt, receive, queue, ended, Received.row?]
    | cons row rest =>
      exact ⟨rest, by simp [move, receive, queue],
        by simp [move, receipt, receive, queue, Received.row?]⟩
  | pause | resume | stop =>
    refine ⟨waiting, (f.steer_spec (by simp) (by simp)).2.2.trans queue, ?_⟩
    rw [(f.steer_spec (by simp) (by simp)).1]
    rfl

/-- The rows received, those that wait and those held are the rows of the beginning. -/
theorem moves_queue {f : Feed} {waiting : List Row} (queue : f.outlet = .queue waiting)
    (all : List Move) :
    ∃ waiting', (f.moves all).outlet = .queue waiting' ∧
      (f.receipts all).filterMap Received.row? ++ waiting' ++ (f.moves all).held =
        waiting ++ f.held := by
  induction all generalizing f waiting with
  | nil => exact ⟨waiting, queue, rfl⟩
  | cons m rest ih =>
    obtain ⟨middle, queue', first⟩ := move_queue queue m
    obtain ⟨waiting', last, later⟩ := ih queue'
    refine ⟨waiting', last, ?_⟩
    -- what is received first stands before what waits and is held after the first move
    rw [receipts, List.filterMap_append, List.append_assoc, List.append_assoc, moves_cons,
      ← List.append_assoc _ waiting', later, ← List.append_assoc, first]

theorem move_callback {f : Feed} {deliveries : List Delivery}
    (callback : f.outlet = .callback deliveries) (m : Move) :
    ∃ rows, (f.move m).outlet = .callback (deliveries ++ rows.map .ok) ∧
      rows ++ (f.move m).held = f.held ∧ (f.receipt m).filterMap Received.row? = [] := by
  cases m with
  | run =>
    rw [move, run_outlet, run_held, callback]
    by_cases running : f.control = .running
    · exact ⟨f.held, by simp [running, Outlet.putAll_callback], by simp [running], rfl⟩
    · exact ⟨[], by simp [running], by simp [running], rfl⟩
  | receive =>
    refine ⟨[], by simp [move, receive, callback], by simp [move, receive, callback], ?_⟩
    cases ended : f.finished <;> simp [receipt, receive, callback, ended, Received.row?]
  | pause | resume | stop =>
    refine ⟨[], ?_, (f.steer_spec (by simp) (by simp)).1, rfl⟩
    rw [(f.steer_spec (by simp) (by simp)).2.2, callback, List.map_nil, List.append_nil]

/-- The rows delivered and those held are the rows of the beginning, and nothing is received. -/
theorem moves_callback {f : Feed} {deliveries : List Delivery}
    (callback : f.outlet = .callback deliveries) (all : List Move) :
    ∃ rows, (f.moves all).outlet = .callback (deliveries ++ rows.map .ok) ∧
      rows ++ (f.moves all).held = f.held ∧
      (f.receipts all).filterMap Received.row? = [] := by
  induction all generalizing f deliveries with
  | nil => exact ⟨[], by simpa using callback, rfl, rfl⟩
  | cons m rest ih =>
    obtain ⟨first, callback', begun, unreceived⟩ := move_callback callback m
    obtain ⟨later, last, kept, unreceived'⟩ := ih callback'
    refine ⟨first ++ later, ?_, ?_, ?_⟩
    · rw [moves_cons, last, List.map_append, List.append_assoc]
    · rw [moves_cons, List.append_assoc, kept, begun]
    · rw [receipts, List.filterMap_append, unreceived, unreceived', List.nil_append]

/-- The rows that some moves have let out of a feed, those received first. -/
def letOut (f : Feed) (all : List Move) : List Row :=
  (f.receipts all).filterMap Received.row? ++ (f.moves all).outlet.rows

theorem letOut_held (rows : List Row) (withCallback : Bool) (all : List Move) :
    (fresh rows withCallback).letOut all ++ ((fresh rows withCallback).moves all).held = rows := by
  unfold letOut
  cases withCallback with
  | false =>
    have queue : (fresh rows false).outlet = .queue [] := rfl
    obtain ⟨waiting, outlet, together⟩ := moves_queue queue all
    rw [outlet, Outlet.rows_queue]
    exact together
  | true =>
    have callback : (fresh rows true).outlet = .callback [] := rfl
    obtain ⟨emitted, outlet, together, unreceived⟩ := moves_callback callback all
    rw [outlet, unreceived, List.nil_append, List.nil_append, Outlet.rows_callback]
    exact together

/-- Rows that wait are received before any other, in their order, whatever comes in between. -/
theorem receipts_of_waiting {f : Feed} {ahead : List Row} (waits : ahead <+: f.outlet.waiting)
    (all : List Move) :
    (f.receipts all).take ahead.length =
      (ahead.take (f.receipts all).length).map .row := by
  induction all generalizing f ahead with
  | nil => simp [receipts]
  | cons m rest ih =>
    by_cases received : m = .receive
    · subst received
      cases ahead with
      | nil => simp
      | cons row ahead =>
        obtain ⟨behind, waiting⟩ := waits
        have queue : f.outlet = .queue (row :: (ahead ++ behind)) := by
          cases outlet : f.outlet with
          | queue rows => simpa [outlet, Outlet.waiting] using waiting.symm
          | callback deliveries => simp [outlet, Outlet.waiting] at waiting
        have left : ahead <+: (f.move .receive).outlet.waiting := by
          simp [move, receive, queue, Outlet.waiting]
        have first : f.receipt .receive = [.row row] := by simp [receipt, receive, queue]
        rw [receipts, first]
        simp [ih left]
    · have none : f.receipt m = [] := by
        cases m with
        | receive => exact absurd rfl received
        | _ => rfl
      rw [receipts, none, List.nil_append]
      exact ih (waits.trans (f.waiting_move received))

end Feed

end DeviceQuery
