import DeviceQuery.Feed

/-!
# Runs of a feed

A run takes a feed to rest, where a further run does nothing, in whatever order its steps come
between those of other feeds (`run_run`, `advanceBy_eq_run`). What it leaves follows from the
control at the time of the run alone, however often the control has been set since the feed fell
asleep (`surface_run`): while running every row held is let out and the feed is over, while paused
nothing happens unless there is nothing to wait for, and once stopped the feed is over with what it
holds.
-/

namespace DeviceQuery

namespace Outlet

/-- The outlet after some rows have been let out, one after the other. -/
def putAll (o : Outlet) (rows : List Row) : Outlet := rows.foldl (fun o row => o.put row) o

@[simp] theorem putAll_nil (o : Outlet) : o.putAll [] = o := rfl

@[simp] theorem putAll_cons (o : Outlet) (row : Row) (rows : List Row) :
    o.putAll (row :: rows) = (o.put row).putAll rows := rfl

theorem putAll_queue (waiting rows : List Row) :
    (queue waiting).putAll rows = queue (waiting ++ rows) := by
  induction rows generalizing waiting with
  | nil => simp
  | cons row rows ih =>
    rw [putAll_cons, put, ih, List.append_assoc, List.singleton_append]

theorem putAll_callback (deliveries : List Delivery) (rows : List Row) :
    (callback deliveries).putAll rows = callback (deliveries ++ rows.map .ok) := by
  induction rows generalizing deliveries with
  | nil => simp
  | cons row rows ih =>
    rw [putAll_cons, put, ih, List.append_assoc, List.singleton_append, List.map_cons]

end Outlet

/-- What can be seen of a feed from outside, its control apart. -/
structure Surface where
  held : List Row
  outlet : Outlet
  finished : Bool

/-- What a run leaves of a surface under a control. -/
def Surface.run (s : Surface) : Control → Surface
  | .running => { held := [], outlet := s.outlet.putAll s.held, finished := true }
  | .paused => { s with finished := s.held.isEmpty }
  | .stopped => { s with finished := true }

namespace Feed

/-- What can be seen of a feed from outside. -/
def surface (f : Feed) : Surface :=
  { held := f.held, outlet := f.outlet, finished := f.finished }

theorem finished_iff {f : Feed} : f.finished = true ↔ f.stage = .ended := by
  simp [finished]

/-! ## One step -/

/-- What a look at the control comes to. -/
inductive Looked (f g : Feed) : Prop where
  /-- There was no row left. -/
  | exhausted (rows : f.held = []) (stage : g.stage = .ended) (held : g.held = f.held)
      (outlet : g.outlet = f.outlet)
  | letOut (row : Row) (rest : List Row) (rows : f.held = row :: rest)
      (control : f.control = .running) (stage : g.stage = .ready) (held : g.held = rest)
      (outlet : g.outlet = f.outlet.put row)
  | fellAsleep (rows : f.held ≠ []) (control : f.control = .paused)
      (stage : g.stage = .asleep f.times) (held : g.held = f.held) (outlet : g.outlet = f.outlet)
  | gaveUp (control : f.control = .stopped) (stage : g.stage = .ended) (held : g.held = f.held)
      (outlet : g.outlet = f.outlet)

theorem looked_look (f : Feed) : f.Looked f.look := by
  unfold look
  split
  · next rows => exact .exhausted rows rfl rfl rfl
  · next row rest rows control => exact .letOut row rest rows control rfl rfl rfl
  · next rows control => exact .fellAsleep (by simp [rows]) control rfl rfl rfl
  · next control => exact .gaveUp control rfl rfl rfl

@[simp] theorem look_control (f : Feed) : f.look.control = f.control := by
  unfold look
  split <;> rfl

@[simp] theorem look_times (f : Feed) : f.look.times = f.times := by
  unfold look
  split <;> rfl

theorem advance_of_ended {f : Feed} (ended : f.stage = .ended) : f.advance = f := by
  simp [advance, ended]

theorem advance_of_asleep {f : Feed} (asleep : f.stage = .asleep f.times) : f.advance = f := by
  simp [advance, asleep]

/-- A step is a look at the control, unless the feed is at rest. -/
theorem advance_rest_or_look (f : Feed) : f.advance = f ∨ f.advance = f.look := by
  cases stage : f.stage with
  | ready => simp [advance, stage]
  | asleep seen =>
    by_cases same : seen = f.times
    · exact .inl (advance_of_asleep (same ▸ stage))
    · simp [advance, stage, same]
  | ended => exact .inl (advance_of_ended stage)

@[simp] theorem advance_control (f : Feed) : f.advance.control = f.control := by
  rcases f.advance_rest_or_look with rest | looks
  · rw [rest]
  · rw [looks, look_control]

/-- A step is the last one, or it takes a row away from those held. -/
theorem advance_rest_or_shorter (f : Feed) :
    f.advance.advance = f.advance ∨ f.advance.held.length < f.held.length := by
  rcases f.advance_rest_or_look with rest | looks
  · rw [rest]
    exact .inl rest
  · rw [looks]
    cases f.looked_look with
    | exhausted _ stage _ _ => exact .inl (advance_of_ended stage)
    | letOut row rest rows _ _ held _ =>
      right
      rw [held, rows, List.length_cons]
      exact Nat.lt_succ_self _
    | fellAsleep _ _ stage _ _ => exact .inl (advance_of_asleep (by rw [stage, look_times]))
    | gaveUp _ stage _ _ => exact .inl (advance_of_ended stage)

/-! ## Steps up to rest -/

theorem advanceBy_of_rest {f : Feed} (rest : f.advance = f) (n : Nat) : f.advanceBy n = f := by
  induction n with
  | zero => rfl
  | succ n ih => rw [advanceBy, rest, ih]

theorem advanceBy_add (f : Feed) (m n : Nat) :
    f.advanceBy (m + n) = (f.advanceBy m).advanceBy n := by
  induction m generalizing f with
  | zero => simp [advanceBy]
  | succ m ih => rw [Nat.succ_add, advanceBy, ih, advanceBy]

@[simp] theorem advanceBy_control (f : Feed) (n : Nat) : (f.advanceBy n).control = f.control := by
  induction n generalizing f with
  | zero => rfl
  | succ n ih => rw [advanceBy, ih, advance_control]

theorem advance_advanceBy {f : Feed} {n : Nat} (enough : f.held.length < n) :
    (f.advanceBy n).advance = f.advanceBy n := by
  induction n generalizing f with
  | zero => omega
  | succ n ih =>
    rw [advanceBy]
    -- every step but the last takes a row away, so the count outlasts the rows
    rcases f.advance_rest_or_shorter with rest | shorter
    · rw [advanceBy_of_rest rest, rest]
    · exact ih (by omega)

theorem advance_run (f : Feed) : f.run.advance = f.run :=
  advance_advanceBy (Nat.lt_succ_self _)

/-- Steps that bring a feed to rest, however many they are, do what a run does. -/
theorem advanceBy_eq_run {f : Feed} {n : Nat} (rest : (f.advanceBy n).advance = f.advanceBy n) :
    f.advanceBy n = f.run := by
  -- the shorter of the two walks ends at rest, so the longer one adds nothing to it
  rcases Nat.le_total n (f.held.length + 1) with few | many
  · obtain ⟨more, enough⟩ := Nat.exists_eq_add_of_le few
    rw [run, enough, advanceBy_add, advanceBy_of_rest rest]
  · obtain ⟨more, spare⟩ := Nat.exists_eq_add_of_le many
    rw [spare, advanceBy_add]
    exact advanceBy_of_rest f.advance_run more

@[simp] theorem run_control (f : Feed) : f.run.control = f.control := f.advanceBy_control _

theorem run_run (f : Feed) : f.run.run = f.run := advanceBy_of_rest f.advance_run _

/-! ## What a run leaves -/

theorem stage_of_look_eq {f : Feed} (looks : f.look = f) :
    f.stage = .ended ∨ f.stage = .asleep f.times := by
  have looked := f.looked_look
  rw [looks] at looked
  cases looked with
  | exhausted _ stage _ _ => exact .inl stage
  | letOut row rest rows _ _ held _ => simp [rows] at held
  | fellAsleep _ _ stage _ _ => exact .inr stage
  | gaveUp _ stage _ _ => exact .inl stage

/-- A feed at rest is over, or asleep on the control as it is. -/
theorem stage_of_rest {f : Feed} (rest : f.advance = f) :
    f.stage = .ended ∨ f.stage = .asleep f.times := by
  cases stage : f.stage with
  | ready => exact stage ▸ stage_of_look_eq (by simpa [advance, stage] using rest)
  | asleep seen =>
    by_cases same : seen = f.times
    · exact .inr (by rw [same])
    · exact stage ▸ stage_of_look_eq (by simpa [advance, stage, same] using rest)
  | ended => exact .inl rfl

/-- A run would leave a feed at rest as it is. -/
theorem surface_of_rest {f : Feed} (rest : f.advance = f) :
    f.surface.run f.control = f.surface := by
  -- here the proofs that a feed carries about its stage are used
  rcases stage_of_rest rest with ended | asleep
  · have finished : f.finished = true := finished_iff.mpr ended
    rcases f.settled_of_ended ended with empty | stopped
    · cases f.control <;> simp [Surface.run, surface, empty, finished]
    · simp [Surface.run, surface, stopped, finished]
  · obtain ⟨rows, -, paused⟩ := f.paused_of_asleep f.times asleep
    simp [Surface.run, surface, finished, paused rfl, rows, asleep]

/-- A step does not change what a run leaves. -/
theorem surface_advance (f : Feed) :
    f.advance.surface.run f.control = f.surface.run f.control := by
  rcases f.advance_rest_or_look with rest | looks
  · rw [rest]
  · rw [looks]
    cases f.looked_look with
    | exhausted _ _ held outlet => cases f.control <;> simp [Surface.run, surface, held, outlet]
    | letOut row rest rows control _ held outlet =>
      simp [Surface.run, surface, control, held, outlet, rows]
    | fellAsleep _ control _ held outlet =>
      simp [Surface.run, surface, control, held, outlet]
    | gaveUp control _ held outlet => simp [Surface.run, surface, control, held, outlet]

theorem surface_advanceBy (f : Feed) (n : Nat) :
    (f.advanceBy n).surface.run f.control = f.surface.run f.control := by
  induction n generalizing f with
  | zero => rfl
  | succ n ih =>
    rw [advanceBy, ← f.surface_advance, ← f.advance_control]
    exact ih f.advance

/-- What a run leaves of a feed follows from its surface and its control at that time. -/
theorem surface_run (f : Feed) : f.run.surface = f.surface.run f.control := by
  -- what a run leaves is the same before and after it, and after it there is nothing left to do
  have atRest : f.run.surface.run f.control = f.run.surface := by
    simpa using surface_of_rest f.advance_run
  rw [← atRest]
  exact f.surface_advanceBy _

end Feed

end DeviceQuery
