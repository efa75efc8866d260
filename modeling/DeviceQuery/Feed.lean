import DeviceQuery.Failure
import DeviceQuery.Item.Basic

/-!
# Feeds

A feed replays the rows of a stream. Before each row it looks at its control: while running it
lets the row out, while paused it falls asleep until the control is set again, and once stopped it
is over. It works only when it is run, and then until it can go no further. A row goes to the
callback if there is one and else into a queue. What has been let out is never taken back.
-/

namespace DeviceQuery

/-- How a feed is controlled. -/
inductive Control where
  | running
  | paused
  | stopped
deriving DecidableEq

/-- The control's name. -/
def Control.name : Control → String
  | running => "Running"
  | paused => "Paused"
  | stopped => "Stopped"

/-- What a callback is given: a row, or the failure that ended the stream. -/
abbrev Delivery := Except Failure Row

/-- Where the rows of a feed go, with what is there. -/
inductive Outlet where
  /-- Rows that wait to be received, the oldest first. -/
  | queue (waiting : List Row)
  /-- What a callback has been given, the oldest first. -/
  | callback (deliveries : List Delivery)

namespace Outlet

/-- The outlet after a row has been let out. -/
def put (row : Row) : Outlet → Outlet
  | queue waiting => queue (waiting ++ [row])
  | callback deliveries => callback (deliveries ++ [.ok row])

/-- What a callback has been given. -/
def deliveries : Outlet → List Delivery
  | queue _ => []
  | callback all => all

/-- The rows that a callback has been given. -/
def given (o : Outlet) : List Row := o.deliveries.filterMap Except.toOption

/-- What waits to be received. -/
def waiting : Outlet → List Row
  | queue rows => rows
  | callback _ => []

end Outlet

/-- Where the replay of a feed stands. -/
inductive Stage where
  /-- Before its next row. -/
  | ready
  /-- Asleep until the control is set again; it had been set `seen` times when it was looked at. -/
  | asleep (seen : Nat)
  | ended
deriving DecidableEq

/-- The replay of a stream's rows. -/
structure Feed where
  control : Control
  /-- How often the control has been set. -/
  times : Nat
  /-- The rows not let out yet. -/
  held : List Row
  outlet : Outlet
  stage : Stage
  /-- A feed falls asleep over a row, because it is paused, and every setting wakes it. -/
  paused_of_asleep : ∀ seen, stage = .asleep seen →
    held ≠ [] ∧ seen ≤ times ∧ (seen = times → control = .paused)
  /-- A feed is over because it has no more rows or has been stopped. -/
  settled_of_ended : stage = .ended → held = [] ∨ control = .stopped

/-- What a receiver gets from a feed. -/
inductive Received where
  | row (r : Row)
  /-- Nothing waits, but more may come. -/
  | nothing
  /-- Nothing waits, and nothing will come. -/
  | ended
deriving DecidableEq

namespace Feed

/-- A feed that has not been run yet. -/
def fresh (rows : List Row) (withCallback : Bool) : Feed :=
  { control := .running
    times := 0
    held := rows
    outlet := if withCallback then .callback [] else .queue []
    stage := .ready
    paused_of_asleep := by simp
    settled_of_ended := by simp }

/-- The replay is over. -/
def finished (f : Feed) : Bool := f.stage = .ended

/-! ## The replay -/

/-- Looks at the control with the next row in hand. -/
def look (f : Feed) : Feed :=
  match rows : f.held, control : f.control with
  | [], _ =>
    { f with
      stage := .ended
      paused_of_asleep := by simp
      settled_of_ended := by simp [rows] }
  | row :: rest, .running =>
    { f with
      held := rest
      outlet := f.outlet.put row
      stage := .ready
      paused_of_asleep := by simp
      settled_of_ended := by simp }
  | _ :: _, .paused =>
    { f with
      stage := .asleep f.times
      paused_of_asleep := by simp [rows, control]
      settled_of_ended := by simp }
  | _ :: _, .stopped =>
    { f with
      stage := .ended
      paused_of_asleep := by simp
      settled_of_ended := by simp [control] }

/-- A step of the replay, from one wait to the next. Who sleeps and has not been woken sleeps on. -/
def advance (f : Feed) : Feed :=
  match f.stage with
  | .ready => f.look
  | .asleep seen => if seen = f.times then f else f.look
  | .ended => f

/-- Some steps of the replay. -/
def advanceBy (f : Feed) : Nat → Feed
  | 0 => f
  | n + 1 => f.advance.advanceBy n

/-- Runs a feed until it can go no further. All steps but the last one let a row out, so there are
at most this many. -/
def run (f : Feed) : Feed := f.advanceBy (f.held.length + 1)

/-! ## The handle -/

/-- Takes the oldest row that waits. -/
def receive (f : Feed) : Received × Feed :=
  match f.outlet with
  | .queue (r :: rest) => (.row r, { f with outlet := .queue rest })
  | _ => (if f.finished then .ended else .nothing, f)

/-- Sets the control, also to what it is. A feed that has been stopped stays so. -/
def set (f : Feed) (control : Control) (stays : f.control = .stopped → control = .stopped) :
    Feed :=
  { f with
    control
    times := f.times + 1
    paused_of_asleep := by
      intro seen asleep
      obtain ⟨rows, before, -⟩ := f.paused_of_asleep seen asleep
      exact ⟨rows, by omega, by omega⟩
    settled_of_ended := fun ended => (f.settled_of_ended ended).imp id stays }

/-- Changes the control of a feed that has not been stopped. -/
def turn (f : Feed) (control : Control) : Except Failure Feed :=
  if stopped : f.control = .stopped then .error .closed
  else .ok (f.set control fun h => absurd h stopped)

/-- Stops a feed. -/
def stop (f : Feed) : Feed := f.set .stopped fun _ => rfl

end Feed

end DeviceQuery
