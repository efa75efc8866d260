import DeviceQuery.Proofs.Filter.Evaluation
import DeviceQuery.Proofs.Filter.Message

/-!
# The check is exact

`Filter.check` accepts a filter exactly when the device can evaluate what stands before the first
unknown word, whatever truth values the operands have, and it refuses with the first operator that
lacks operands. Both follow from one fact about the height that the check carries along: it is the
number of operands less the number of binary operators so far, and never less than zero
(`checkFrom_append`). What the caller gets of a refusal is its words, from which the operator, its
position and the two counts can be read off.
-/

namespace DeviceQuery

namespace Filter

/-- The terms before the first unknown word. What follows it is not checked. -/
def checked (f : Filter) : Filter := f.takeWhile fun t => !t.isUnknown

def operands (f : Filter) : Nat := f.countP Term.isOperand

/-- The number of operators that join two values. -/
def binaries (f : Filter) : Nat := f.countP Term.isBinary

/-- The values that the first `position` terms should leave on the stack. A negative number tells
of values that were missing. -/
def heightAt (f : Filter) (position : Nat) : Int :=
  operands (f.take position) - binaries (f.take position)

/-- The operator at a position of the checked part finds fewer values than it needs. -/
structure Lacks (f : Filter) (position : Nat) (op : Operator) : Prop where
  checked : position < f.checked.length
  operator : f[position]?.bind Term.operator? = some op
  short : f.heightAt position < op.arity

/-- The shortfall of the first operator that finds fewer values than it needs. -/
structure FirstLack (f : Filter) (s : Shortfall) : Prop where
  lacks : f.Lacks s.position s.operator
  needed : s.needed = s.operator.arity
  found : (s.found : Int) = f.heightAt s.position
  first : ∀ position < s.position, ∀ op, ¬ f.Lacks position op

/-! ## The running height -/

theorem binaries_cons (t : Term) (f : Filter) :
    binaries (t :: f) = binaries f + if t.isBinary then 1 else 0 := by
  simp [binaries, List.countP_cons]

theorem operands_cons (t : Term) (f : Filter) :
    operands (t :: f) = operands f + if t.isOperand then 1 else 0 := by
  simp [operands, List.countP_cons]

/-- An operator takes off one value more than it puts back exactly if it is binary. -/
theorem arity_eq (op : Operator) : op.arity = 1 + if op.isBinary then 1 else 0 := by
  cases op <;> rfl

/-- Terms that leave the stack alone count for the position only. -/
theorem checkFrom_skips {f : Filter} (skips : ∀ t ∈ f, t.effect = .skip)
    (position height : Nat) (rest : Filter) :
    checkFrom position height (f ++ rest) = checkFrom (position + f.length) height rest := by
  induction f generalizing position with
  | nil => rfl
  | cons t f ih =>
    have skip := skips t List.mem_cons_self
    have later := ih (fun u member => skips u (List.mem_cons_of_mem t member)) (position + 1)
    rw [List.cons_append, checkFrom, skip, List.length_cons]
    dsimp only
    rw [later, Nat.add_right_comm, Nat.add_assoc]

/-- Operands count for the position and the height. -/
theorem checkFrom_pushes {f : Filter} (pushes : ∀ t ∈ f, t.effect = .push)
    (position height : Nat) (rest : Filter) :
    checkFrom position height (f ++ rest) =
      checkFrom (position + f.length) (height + f.length) rest := by
  induction f generalizing position height with
  | nil => rfl
  | cons t f ih =>
    have push := pushes t List.mem_cons_self
    have later := ih (fun u member => pushes u (List.mem_cons_of_mem t member)) (position + 1)
      (height + 1)
    rw [List.cons_append, checkFrom, push, List.length_cons]
    dsimp only
    rw [later, Nat.add_right_comm position, Nat.add_right_comm height, Nat.add_assoc, Nat.add_assoc]

/-- After accepted terms without an unknown word the check goes on with the height that the terms
should leave; it has never been below zero. -/
theorem checkFrom_append {f : Filter} (known : ∀ t ∈ f, t.isUnknown = false)
    (position height : Nat) (accepted : checkFrom position height f = .ok ()) :
    ∃ after : Nat, (after : Int) = height + f.operands - f.binaries ∧
      ∀ rest, checkFrom position height (f ++ rest) =
        checkFrom (position + f.length) after rest := by
  induction f generalizing position height with
  | nil => exact ⟨height, by simp [operands, binaries], fun rest => rfl⟩
  | cons t f ih =>
    have knownRest : ∀ u ∈ f, u.isUnknown = false := fun u member =>
      known u (List.mem_cons_of_mem t member)
    have next : position + (t :: f).length = position + 1 + f.length := by
      simp only [List.length_cons]
      omega
    rw [operands_cons, binaries_cons, next]
    cases effect : t.effect with
    | push =>
      obtain ⟨operand, noOperator, -⟩ := Term.described effect
      simp only [checkFrom, effect] at accepted
      obtain ⟨after, eq, goesOn⟩ := ih knownRest _ _ accepted
      refine ⟨after, ?_, fun rest => ?_⟩
      · simp only [operand, Term.isBinary, noOperator, Option.any_none]
        simp only [Bool.false_eq_true, if_true, if_false]
        omega
      · simp only [List.cons_append, checkFrom, effect]
        exact goesOn rest
    | apply op =>
      obtain ⟨noOperand, operator, -⟩ := Term.described effect
      simp only [checkFrom, effect] at accepted
      split at accepted
      · cases accepted
      · next enough =>
        obtain ⟨after, eq, goesOn⟩ := ih knownRest _ _ accepted
        have arity := arity_eq op
        refine ⟨after, ?_, fun rest => ?_⟩
        · simp only [noOperand, Term.isBinary, operator, Option.any_some]
          split at arity <;> simp_all <;> omega
        · simp only [List.cons_append, checkFrom, effect, if_neg enough]
          exact goesOn rest
    | skip =>
      obtain ⟨noOperand, noOperator, -⟩ := Term.described effect
      simp only [checkFrom, effect] at accepted
      obtain ⟨after, eq, goesOn⟩ := ih knownRest _ _ accepted
      refine ⟨after, ?_, fun rest => ?_⟩
      · simp only [noOperand, Term.isBinary, noOperator, Option.any_none]
        simp only [Bool.false_eq_true, if_false]
        omega
      · simp only [List.cons_append, checkFrom, effect]
        exact goesOn rest
    | unknown =>
      have unknown := (Term.described effect).2.2
      rw [known t List.mem_cons_self] at unknown
      cases unknown

/-! ## The first operator that lacks operands -/

/-- Within the checked part a filter and its checked part start alike. -/
theorem take_checked {f : Filter} {position : Nat} (bound : position ≤ f.checked.length) :
    f.take position = f.checked.take position := by
  have parts : f.checked ++ f.dropWhile (fun t => !t.isUnknown) = f :=
    List.takeWhile_append_dropWhile
  calc f.take position
      = (f.checked ++ f.dropWhile fun t => !t.isUnknown).take position := by rw [parts]
    _ = f.checked.take position := List.take_append_of_le_length bound

theorem known_of_mem_checked {f : Filter} {t : Term} (member : t ∈ f.checked) :
    t.isUnknown = false := by
  have all := List.all_takeWhile (l := f) (p := fun t => !t.isUnknown)
  simpa using List.all_eq_true.mp all t member

/-- Up to a position of the checked part, accepted terms leave the check at their height. -/
theorem check_take_append {f : Filter} {position : Nat} (bound : position ≤ f.checked.length)
    (accepted : check (f.take position) = .ok ()) :
    ∃ after : Nat, (after : Int) = f.heightAt position ∧
      ∀ rest, check (f.take position ++ rest) = checkFrom position after rest := by
  have known : ∀ t ∈ f.take position, t.isUnknown = false := by
    intro t member
    rw [take_checked bound] at member
    exact known_of_mem_checked (List.mem_of_mem_take member)
  have whole : f.checked.length ≤ f.length := (List.takeWhile_sublist _).length_le
  have length : (f.take position).length = position := by
    rw [List.length_take]
    omega
  obtain ⟨after, eq, goesOn⟩ := checkFrom_append known 0 0 accepted
  refine ⟨after, ?_, fun rest => ?_⟩
  · rw [heightAt, eq]
    omega
  · have := goesOn rest
    rwa [length, Nat.zero_add] at this

/-- Terms without an operator that lacks operands are accepted. -/
theorem check_take {f : Filter} {position : Nat} (bound : position ≤ f.checked.length)
    (sound : ∀ earlier < position, ∀ op, ¬ f.Lacks earlier op) :
    check (f.take position) = .ok () := by
  induction position with
  | zero => rfl
  | succ position ih =>
    -- One term more: it is checked at the height of those before it.
    have accepted := ih (by omega) fun earlier before => sound earlier (by omega)
    obtain ⟨after, eq, goesOn⟩ := check_take_append (by omega) accepted
    rw [List.take_add_one, goesOn]
    cases here : f[position]? with
    | none => rfl
    | some t =>
      simp only [Option.toList_some, checkFrom]
      cases effect : t.effect with
      | push => rfl
      | skip => rfl
      | unknown => rfl
      | apply op =>
        have operator : f[position]?.bind Term.operator? = some op := by
          simp [here, Term.effect_eq_apply_iff.mp effect]
        have enough : ¬ after < op.arity := by
          intro short
          exact sound position (by omega) op ⟨by omega, operator, by omega⟩
        simp only [if_neg enough]

/-- The check refuses with the shortfall of the first operator that lacks operands. -/
theorem check_of_firstLack {f : Filter} {s : Shortfall} (lack : f.FirstLack s) :
    f.check = .error s := by
  have bound := lack.lacks.checked
  have accepted := check_take (Nat.le_of_lt bound) lack.first
  obtain ⟨after, eq, goesOn⟩ := check_take_append (Nat.le_of_lt bound) accepted
  obtain ⟨t, here, operator⟩ := Option.bind_eq_some_iff.mp lack.lacks.operator
  have split : f.drop s.position = t :: f.drop (s.position + 1) := by
    obtain ⟨within, same⟩ := List.getElem?_eq_some_iff.mp here
    rw [List.drop_eq_getElem_cons within, same]
  have found : after = s.found := by
    have := lack.found
    omega
  have short : after < s.operator.arity := by
    have := lack.lacks.short
    omega
  have refused := goesOn (f.drop s.position)
  rw [List.take_append_drop, split] at refused
  rw [refused, checkFrom, Term.effect_eq_apply_iff.mpr operator]
  simp only [if_pos short]
  rw [found, ← lack.needed]

theorem check_of_not_lacks {f : Filter} (sound : ∀ position op, ¬ f.Lacks position op) :
    f.check = .ok () := by
  have accepted := check_take (Nat.le_refl _) fun earlier _ => sound earlier
  obtain ⟨after, -, goesOn⟩ := check_take_append (Nat.le_refl f.checked.length) accepted
  have whole := goesOn (f.dropWhile fun t => !t.isUnknown)
  rw [take_checked (Nat.le_refl _), List.take_length, checked,
    List.takeWhile_append_dropWhile] at whole
  rw [whole]
  -- What is left starts with an unknown word, which ends the check.
  have head := List.head?_dropWhile_not (fun t => !Term.isUnknown t) f
  cases rest : f.dropWhile fun t => !t.isUnknown with
  | nil => rfl
  | cons t rest =>
    rw [rest] at head
    have unknown : t.isUnknown = true := by simpa using head
    simp only [checkFrom, Term.effect_eq_unknown_iff.mpr unknown]

/-- Among the operators that lack operands there is a first one. -/
theorem exists_firstLack {f : Filter} {position : Nat} {op : Operator}
    (lack : f.Lacks position op) : ∃ s, f.FirstLack s := by
  induction position using Nat.strongRecOn generalizing op with
  | ind position ih =>
    by_cases earlier : ∃ before, before < position ∧ ∃ other, f.Lacks before other
    · obtain ⟨before, below, other, lacks⟩ := earlier
      exact ih before below lacks
    · have first : ∀ before < position, ∀ other, ¬ f.Lacks before other :=
        fun before below other lacks => earlier ⟨before, below, other, lacks⟩
      have bound := Nat.le_of_lt lack.checked
      obtain ⟨found, eq, -⟩ := check_take_append bound (check_take bound first)
      exact ⟨⟨op, position, op.arity, found⟩, lack, rfl, eq, first⟩

/-- A filter is accepted exactly if none of its operators lacks operands. -/
theorem check_eq_ok_iff_not_lacks {f : Filter} :
    f.check = .ok () ↔ ∀ position op, ¬ f.Lacks position op := by
  constructor
  · intro accepted position op lack
    obtain ⟨s, first⟩ := exists_firstLack lack
    have refused := check_of_firstLack first
    rw [accepted] at refused
    cases refused
  · exact check_of_not_lacks

/-- A filter is refused exactly with its first operator that lacks operands. -/
theorem check_eq_error_iff {f : Filter} {s : Shortfall} :
    f.check = .error s ↔ f.FirstLack s := by
  constructor
  · intro refused
    by_cases lacking : ∃ position op, f.Lacks position op
    · obtain ⟨position, op, lack⟩ := lacking
      obtain ⟨other, first⟩ := exists_firstLack lack
      have same := check_of_firstLack first
      rw [refused] at same
      cases same
      exact first
    · have accepted := check_of_not_lacks fun position op lack => lacking ⟨position, op, lack⟩
      rw [refused] at accepted
      cases accepted
  · exact check_of_firstLack

/-! ## The check against the evaluation -/

/-- The check with the height of a stack accepts exactly what can be evaluated on that stack. The
induction is on the terms, for the stack and the height change together. -/
theorem checkFrom_eq_ok_iff {f : Filter} {v : Valuation} (values : v.filter = f.checked)
    (position : Nat) (stack : List Bool) :
    checkFrom position stack.length f = .ok () ↔ (v.run stack).isSome := by
  induction f generalizing v position stack with
  | nil =>
    have empty : v = [] := List.map_eq_nil_iff.mp values
    simp [empty, checkFrom, Valuation.run]
  | cons t f ih =>
    by_cases unknown : t.isUnknown = true
    · have none : checked (t :: f) = [] := List.takeWhile_cons_of_neg (by simp [unknown])
      have empty : v = [] := List.map_eq_nil_iff.mp (values.trans none)
      simp [empty, checkFrom, Term.effect_eq_unknown_iff.mpr unknown, Valuation.run]
    · have known : checked (t :: f) = t :: checked f :=
        List.takeWhile_cons_of_pos (by simp [unknown])
      rw [known] at values
      obtain ⟨⟨t', value⟩, w, rfl, rfl, valuesRest⟩ := List.map_eq_cons_iff.mp values
      cases effect : t'.effect with
      | push =>
        obtain ⟨operand, noOperator, -⟩ := Term.described effect
        simp only [checkFrom, effect, Valuation.run, Term.evaluate, noOperator, operand]
        exact ih valuesRest (position + 1) (value :: stack)
      | skip =>
        obtain ⟨noOperand, noOperator, -⟩ := Term.described effect
        simp only [checkFrom, effect, Valuation.run, Term.evaluate, noOperator, noOperand]
        exact ih valuesRest (position + 1) stack
      | unknown => exact absurd (Term.effect_eq_unknown_iff.mp effect) unknown
      | apply op =>
        simp only [checkFrom, effect, Valuation.run, Term.evaluate,
          Term.effect_eq_apply_iff.mp effect]
        have works := op.evaluate_isSome_iff stack
        cases evaluated : op.evaluate stack with
        | none =>
          have short : stack.length < op.arity := by simpa [evaluated] using works
          simp [if_pos short]
        | some after =>
          have enough : ¬ stack.length < op.arity := by simpa [evaluated] using works
          rw [if_neg enough, ← Operator.length_of_evaluate evaluated]
          exact ih valuesRest (position + 1) after

/-- The check accepts exactly the filters whose checked part can be evaluated under every assignment
of truth values. -/
theorem check_eq_ok_iff_evaluates {f : Filter} :
    f.check = .ok () ↔ ∀ v : Valuation, v.filter = f.checked → (v.run []).isSome := by
  constructor
  · intro accepted v values
    exact (checkFrom_eq_ok_iff values 0 []).mp accepted
  · intro evaluated
    have values := filter_valued (fun _ => true) f.checked
    exact (checkFrom_eq_ok_iff values 0 []).mpr (evaluated _ values)

theorem validate_eq_ok_iff {f : Filter} : f.validate = .ok () ↔ f.check = .ok () := by
  unfold validate
  cases f.check <;> simp

theorem validate_eq_error_iff {f : Filter} {e : Failure} :
    f.validate = .error e ↔ ∃ s, f.check = .error s ∧ e = .malformed s.message := by
  unfold validate
  cases f.check <;> simp [eq_comm]

/-- The check is sound and complete. It accepts exactly the filters whose checked part can be
evaluated under every assignment of truth values. It refuses exactly with the first operator that
lacks operands, at its index among all terms: the failure is a malformed filter, in words that name
the operator, the position and the two counts and are the same for no other refusal. And at every
position it comes to it carries the number of operands less the number of binary operators, which
is never below zero. -/
theorem check_sound_and_complete (f : Filter) :
    (f.validate = .ok () ↔ ∀ v : Valuation, v.filter = f.checked → (v.run []).isSome) ∧
    (∀ e, f.validate = .error e ↔ ∃ s, f.FirstLack s ∧
      e = .malformed ("operator " ++ s.operator.word ++ " at position " ++ toString s.position ++
        " needs " ++ toString s.needed ++ " operand(s), found " ++ toString s.found)) ∧
    (∀ s t : Shortfall, s.message = t.message ↔ s = t) ∧
    (f.validate = .ok () ↔ f.check = .ok ()) ∧
    (∀ s, f.validate = .error (.malformed s.message) ↔ f.check = .error s) ∧
    (∀ s, f.check = .error s ↔ f.FirstLack s) ∧
    (∀ position ≤ f.checked.length, (∀ earlier < position, ∀ op, ¬ f.Lacks earlier op) →
      ∃ height : Nat, (height : Int) = f.heightAt position ∧
        f.check = checkFrom position height (f.drop position)) := by
  refine ⟨validate_eq_ok_iff.trans check_eq_ok_iff_evaluates, fun e => ?_,
    fun s t => Shortfall.message_inj, validate_eq_ok_iff, fun s => ?_,
    fun s => check_eq_error_iff, ?_⟩
  · simp only [validate_eq_error_iff, check_eq_error_iff, Shortfall.message]
  · simp [validate_eq_error_iff, Shortfall.message_inj]
  · intro position bound sound
    have accepted := check_take bound sound
    obtain ⟨height, eq, goesOn⟩ := check_take_append bound accepted
    have whole := goesOn (f.drop position)
    rw [List.take_append_drop] at whole
    exact ⟨height, eq, whole⟩

/-- A plain attribute counts for the position and not for the height. -/
example : check [.condition ⟨.plain, .equal, "detail", ""⟩, .raw "?running", .operator .or] =
    .error ⟨.or, 2, 2, 1⟩ := by rfl

end Filter

end DeviceQuery
