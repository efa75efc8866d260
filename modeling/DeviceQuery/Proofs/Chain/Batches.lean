import DeviceQuery.Proofs.Chain.Meaning

/-!
# Combinators on batches

The operators of a combinator or a denial stand after all conditions of its criteria, so they reach
the last condition and the value right before it, and nothing else
(`Filter.meaning_append_queried`). For a single attribute the value before it is the one that the
filter had on top; in a longer batch it is the condition before the last one. Only joining by `and`
is indifferent to that (`combinators_on_batches`).
-/

namespace DeviceQuery

/-- The truth values of the conditions of some criteria, in their order. -/
def Criteria.values (truth : Term → Bool) (c : Criteria) : List Bool :=
  (c.terms .query .equal).map truth

theorem Criteria.length_values (truth : Term → Bool) (c : Criteria) :
    (c.values truth).length = c.size := by
  rw [values, List.length_map, c.length_terms]

/-- Criteria on some attribute end in two values, the one before them counted in. -/
theorem Criteria.exists_last_two (truth : Term → Bool) {c : Criteria} (nonempty : c.size ≠ 0)
    (top : Bool) :
    ∃ earlier second last, top :: c.values truth = earlier ++ [second, last] := by
  have length := c.length_values truth
  rcases List.eq_nil_or_concat (c.values truth) with none | ⟨init, last, ends⟩
  · rw [none] at length
    exact absurd length.symm nonempty
  · rcases List.eq_nil_or_concat (top :: init) with none | ⟨earlier, second, begins⟩
    · cases none
    · refine ⟨earlier, second, last, ?_⟩
      calc top :: c.values truth
          = (top :: init) ++ [last] := by simp [ends]
        _ = earlier ++ [second, last] := by simp [begins]

namespace Filter

variable {truth : Term → Bool} {f : Filter} {top : Bool} {rest : List Bool} {c : Criteria}
  {earlier : List Bool} {second last : Bool}

/-- Where an accepted filter without unknown words leaves a value, there is one on top. -/
theorem exists_top (known : ∀ t ∈ f, t.isUnknown = false) (balanced : f.check = .ok ())
    (leaves : (f.valued truth).run [] ≠ some []) :
    ∃ top rest, (f.valued truth).run [] = some (top :: rest) := by
  have whole : f.checked = f :=
    List.takeWhile_eq_self_iff.mpr fun t member => by simp [known t member]
  have values : (f.valued truth).filter = f.checked := by rw [filter_valued, whole]
  have evaluated := (checkFrom_eq_ok_iff values 0 []).mp balanced
  obtain ⟨stack, run⟩ := Option.isSome_iff_exists.mp evaluated
  cases stack with
  | nil => exact absurd run leaves
  | cons top rest => exact ⟨top, rest, run⟩

/-- The operators after some criteria find the last condition on top of the value before it. If
`joined` is what they make of the two, the filter comes to that and all values below. -/
theorem meaning_append_queried (left : (f.valued truth).run [] = some (top :: rest))
    (values : top :: c.values truth = earlier ++ [second, last]) {ops : List Operator}
    {joined : Bool}
    (works : ∀ stack, ∃ after,
      (valued truth (ops.map Term.operator)).run (last :: second :: stack) = some after ∧
        after.all id = (stack.all id && joined)) :
    (f ++ Call.queried c ops).meaning truth =
      some (rest.all id && earlier.all id && joined) := by
  have pushed : (valued truth (c.terms .query .equal)).run (top :: rest) =
      some (last :: second :: (earlier.reverse ++ rest)) := by
    have stack : (c.values truth).reverse ++ top :: rest =
        last :: second :: (earlier.reverse ++ rest) := by
      calc (c.values truth).reverse ++ top :: rest
          = (top :: c.values truth).reverse ++ rest := by simp
        _ = last :: second :: (earlier.reverse ++ rest) := by simp [values]
    rw [run_pushes truth Criteria.effect_of_query, ← stack]
    rfl
  obtain ⟨after, run, all⟩ := works (earlier.reverse ++ rest)
  have reached : ((f ++ Call.queried c ops).valued truth).run [] = some after := by
    rw [Call.queried, valued_append, valued_append, Valuation.run_append, left, Option.bind_some,
      Valuation.run_append, pushed, Option.bind_some, run]
  rw [meaning, reached, Option.map_some, all, List.all_append, List.all_reverse,
    Bool.and_comm (earlier.all id)]

/-- The five calls with operators, by what they make of the last condition and the value before
it. A denial leaves two values where joining by `and` leaves one, which comes to the same. -/
theorem meaning_joined (left : (f.valued truth).run [] = some (top :: rest))
    (values : top :: c.values truth = earlier ++ [second, last]) :
    let kept := rest.all id && earlier.all id
    (f ++ (Call.andGiven c).terms).meaning truth = some (kept && (second && last)) ∧
      (f ++ (Call.orGiven c).terms).meaning truth = some (kept && (second || last)) ∧
      (f ++ (Call.andNotGiven c).terms).meaning truth = some (kept && (second && !last)) ∧
      (f ++ (Call.orNotGiven c).terms).meaning truth = some (kept && (second || !last)) ∧
      (f ++ (Call.notGiven c).terms).meaning truth = some (kept && (second && !last)) := by
  intro kept
  refine ⟨?_, ?_, ?_, ?_, ?_⟩
  · exact meaning_append_queried left values fun stack => ⟨_, rfl, Bool.and_comm _ _⟩
  · exact meaning_append_queried left values fun stack => ⟨_, rfl, Bool.and_comm _ _⟩
  · exact meaning_append_queried left values fun stack => ⟨_, rfl, Bool.and_comm _ _⟩
  · exact meaning_append_queried left values fun stack => ⟨_, rfl, Bool.and_comm _ _⟩
  · refine meaning_append_queried left values fun stack => ⟨(!last) :: second :: stack, rfl, ?_⟩
    simp only [List.all_cons, id_eq]
    rw [← Bool.and_assoc, Bool.and_comm, Bool.and_comm (!last)]

end Filter

/-- Where an accepted filter without unknown words leaves a value on top of others, criteria joined
by `and` are joined as a whole. The other calls do the same with criteria on a single attribute; of
a batch they take the last condition alone, with the value before it, and all conditions before
these are to hold for themselves. -/
theorem combinators_on_batches (q : Chain) (known : ∀ t ∈ q.filter, t.isUnknown = false)
    (balanced : q.check = .ok ()) (truth : Term → Bool)
    (leaves : (q.filter.valued truth).run [] ≠ some []) (c : Criteria) (nonempty : c.size ≠ 0) :
    ∃ top rest, (q.filter.valued truth).run [] = some (top :: rest) ∧
      let below := rest.all id
      let whole := (c.values truth).all id
      let after (call : Call) := (q.apply call).filter.meaning truth
      after (.andGiven c) = some (below && (top && whole)) ∧
      (c.size = 1 →
        after (.orGiven c) = some (below && (top || whole)) ∧
        after (.andNotGiven c) = some (below && (top && !whole)) ∧
        after (.orNotGiven c) = some (below && (top || !whole)) ∧
        after (.notGiven c) = some (below && (top && !whole))) ∧
      ∀ earlier second last, c.values truth = earlier ++ [second, last] →
        let kept := below && (top && earlier.all id)
        after (.orGiven c) = some (kept && (second || last)) ∧
        after (.andNotGiven c) = some (kept && (second && !last)) ∧
        after (.orNotGiven c) = some (kept && (second || !last)) ∧
        after (.notGiven c) = some (kept && (second && !last)) := by
  obtain ⟨top, rest, left⟩ := Filter.exists_top known balanced leaves
  refine ⟨top, rest, left, ?_, ?_, ?_⟩
  · obtain ⟨earlier, second, last, values⟩ := Criteria.exists_last_two truth nonempty top
    have joined := (Filter.meaning_joined left values).1
    -- taken together, all values are to hold, wherever the last two begin
    have together : (top && (c.values truth).all id) = (earlier.all id && (second && last)) := by
      calc (top && (c.values truth).all id)
          = (top :: c.values truth).all id := by simp
        _ = (earlier.all id && (second && last)) := by simp [values]
    rw [together, ← Bool.and_assoc]
    simpa only [Chain.apply_filter] using joined
  · intro single
    obtain ⟨value, only⟩ := List.length_eq_one_iff.mp ((c.length_values truth).trans single)
    have values : top :: c.values truth = [] ++ [top, value] := by rw [only]; rfl
    simpa [only] using (Filter.meaning_joined left values).2
  · intro earlier second last ends
    have values : top :: c.values truth = (top :: earlier) ++ [second, last] := by
      rw [ends, List.cons_append]
    simpa only [Chain.apply_filter, List.all_cons, id_eq] using
      (Filter.meaning_joined left values).2

/-- Three conditions joined to one, of which only the last two hold. -/
theorem combinators_on_batches_three :
    let q := (Chain.on "/interface" {}).applyAll [.given (.key "comment"), .raw ["?running"]]
    let c : Criteria :=
      .batch [("mtu", .integer 1500), ("slave", .flag true), ("type", .text "vlan")]
    let truth (t : Term) : Bool := t.word ≠ "?mtu=1500"
    (∀ t ∈ q.filter, t.isUnknown = false) ∧ q.check = .ok () ∧
      (q.filter.valued truth).run [] = some [true, true] ∧ c.size ≠ 0 ∧
      (q.apply (.andGiven c)).filter.meaning truth = some false ∧
      (q.apply (.orGiven c)).filter.meaning truth = some false := by
  intro q c truth
  have known : ∀ t ∈ q.filter, t.isUnknown = false := by decide
  have left : (q.filter.valued truth).run [] = some [true, true] := by decide
  have leaves : (q.filter.valued truth).run [] ≠ some [] := by rw [left]; simp
  obtain ⟨top, rest, run, joined, -, batch⟩ :=
    combinators_on_batches q known (by rfl) truth leaves c (by decide)
  rw [left] at run
  cases run
  have values : c.values truth = [false] ++ [true, true] := by decide
  exact ⟨known, by rfl, left, by decide, joined, (batch [false] true true values).1⟩

/-- An alternative of two conditions, both of which hold, does not hold together with a condition
before it that does not: the first of the two is not part of the alternative. -/
theorem batch_not_one_operand :
    let q := (Chain.on "/interface" {}).apply (.given (.single "type" (.text "ether")))
    let c : Criteria := .batch [("name", .text "ether1"), ("running", .flag true)]
    let truth (t : Term) : Bool := t.word ≠ "?type=ether"
    q.check = .ok () ∧ (∀ t ∈ q.filter, t.isUnknown = false) ∧
      (q.filter.valued truth).run [] = some [false] ∧ (c.values truth).all id = true ∧
      (q.apply (.orGiven c)).filter.meaning truth ≠
        some (([] : List Bool).all id && (false || (c.values truth).all id)) :=
  ⟨by rfl, by decide, by decide, by decide, by decide⟩

end DeviceQuery
