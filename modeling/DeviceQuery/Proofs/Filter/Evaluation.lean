import DeviceQuery.Filter.Balance

/-!
# The device's evaluation of a filter

The device runs a filter on a stack of truth values. An operand pushes its value, an operator
takes its operands off the stack and puts one value back, and all else leaves the stack alone.
What a term is, is said here by the kind of term and by the first characters of a raw word, apart
from the effects that the check reads; `Term.effect_spec` ties the two together. The values left
at the end are joined by `and`.
-/

namespace DeviceQuery

namespace Operator

def isBinary : Operator → Bool
  | and | or => true
  | not => false

/-- The stack after an operator, the top value first; there is none if values are missing. -/
def evaluate : Operator → List Bool → Option (List Bool)
  | not, a :: rest => some ((!a) :: rest)
  | and, b :: a :: rest => some ((a && b) :: rest)
  | or, b :: a :: rest => some ((a || b) :: rest)
  | _, _ => none

/-- An operator works exactly on the stacks that hold its operands. -/
theorem evaluate_isSome_iff (op : Operator) (stack : List Bool) :
    (op.evaluate stack).isSome ↔ op.arity ≤ stack.length := by
  cases op <;> rcases stack with _ | ⟨a, _ | ⟨b, rest⟩⟩ <;> simp [evaluate, arity]

/-- An operator takes off its operands and puts one value back. -/
theorem length_of_evaluate {op : Operator} {stack after : List Bool}
    (evaluated : op.evaluate stack = some after) :
    after.length = stack.length - op.arity + 1 := by
  cases op <;> rcases stack with _ | ⟨a, _ | ⟨b, rest⟩⟩ <;>
    simp only [evaluate, Option.some.injEq, reduceCtorEq] at evaluated <;>
    subst evaluated <;> simp [arity]

/-- The only word of an operator is its own. -/
theorem ofWord?_eq_some_iff {word : String} {op : Operator} :
    ofWord? word = some op ↔ word = op.word := by
  constructor
  · intro read
    unfold ofWord? at read
    split at read
    · next same => cases read; exact same
    · split at read
      · next same => cases read; exact same
      · split at read
        · next same => cases read; exact same
        · cases read
  · rintro rfl
    exact ofWord?_word op

end Operator

namespace Term

/-- A term that stands for a truth value: a condition with the question mark, or a raw word that
starts with `?` and not with `?#`. -/
def isOperand : Term → Bool
  | condition c => c.marker = .query
  | operator _ => false
  | raw word => ['?'].isPrefixOf word.toList && (['?', '#'].isPrefixOf word.toList).not

/-- The operator that a term is or that its raw word stands for. -/
def operator? : Term → Option Operator
  | condition _ => none
  | operator op => some op
  | raw word => Operator.ofWord? word

/-- A term that joins two values. -/
def isBinary (t : Term) : Bool := t.operator?.any Operator.isBinary

/-- A raw word that starts with `?#` and is none of the known operators. -/
def isUnknown : Term → Bool
  | raw word => ['?', '#'].isPrefixOf word.toList && (Operator.ofWord? word).isNone
  | _ => false

/-- What is said of a term by its effect. -/
def Described (t : Term) : Effect → Prop
  | .push => t.isOperand = true ∧ t.operator? = none ∧ t.isUnknown = false
  | .apply op => t.isOperand = false ∧ t.operator? = some op ∧ t.isUnknown = false
  | .skip => t.isOperand = false ∧ t.operator? = none ∧ t.isUnknown = false
  | .unknown => t.isOperand = false ∧ t.operator? = none ∧ t.isUnknown = true

/-- A word that does not start with `?#` stands for no operator. -/
theorem ofWord?_eq_none {word : String} (other : ['?', '#'].isPrefixOf word.toList = false) :
    Operator.ofWord? word = none := by
  cases read : Operator.ofWord? word with
  | none => rfl
  | some op =>
    rw [Operator.ofWord?_eq_some_iff.mp read] at other
    cases op <;> simp [Operator.word] at other

theorem rawEffect_spec (word : String) : (raw word).Described (rawEffect word) := by
  unfold rawEffect
  rcases chars : word.toList with _ | ⟨c, rest⟩
  · simp [Described, isOperand, operator?, isUnknown, chars, ofWord?_eq_none]
  by_cases marked : c = '?'
  · subst marked
    rcases rest with _ | ⟨d, rest⟩
    · simp [Described, isOperand, operator?, isUnknown, chars, ofWord?_eq_none]
    by_cases opened : d = '#'
    · subst opened
      cases read : Operator.ofWord? word <;>
        simp [Described, isOperand, operator?, isUnknown, chars, read]
    · have other : ['?', '#'].isPrefixOf word.toList = false := by
        simp [chars, List.isPrefixOf, Ne.symm opened]
      simp only [Described, isOperand, operator?, isUnknown, ofWord?_eq_none other, other]
      simp [chars, opened]
  · have other : ['?', '#'].isPrefixOf word.toList = false := by
      simp [chars, List.isPrefixOf, Ne.symm marked]
    simp only [Described, isOperand, operator?, isUnknown, ofWord?_eq_none other, other]
    simp [chars, marked, List.isPrefixOf, Ne.symm marked]

/-- The effect of a term is the one that its kind has. -/
theorem effect_spec (t : Term) : t.Described t.effect := by
  cases t with
  | condition c =>
    cases marker : c.marker <;>
      simp [effect, Described, isOperand, operator?, isUnknown, marker]
  | operator op => simp [effect, Described, isOperand, operator?, isUnknown]
  | raw word => exact rawEffect_spec word

theorem described {t : Term} {effect : Effect} (same : t.effect = effect) : t.Described effect :=
  same ▸ t.effect_spec

theorem effect_eq_apply_iff {t : Term} {op : Operator} :
    t.effect = .apply op ↔ t.operator? = some op := by
  constructor
  · intro effect
    exact (described effect).2.1
  · intro operator
    have own := t.effect_spec
    cases same : t.effect <;> rw [same] at own <;> simp_all [Described]

theorem effect_eq_unknown_iff {t : Term} : t.effect = .unknown ↔ t.isUnknown = true := by
  constructor
  · intro effect
    exact (described effect).2.2
  · intro unknown
    have own := t.effect_spec
    cases same : t.effect <;> rw [same] at own <;> simp_all [Described]

/-- The stack after a term, where `value` is what an operand pushes. -/
def evaluate (t : Term) (value : Bool) (stack : List Bool) : Option (List Bool) :=
  match t.operator? with
  | some op => op.evaluate stack
  | none => some (if t.isOperand then value :: stack else stack)

end Term

/-- The terms of a filter with a truth value for each; the values of the operands count. -/
abbrev Valuation := List (Term × Bool)

namespace Valuation

def filter (v : Valuation) : Filter := v.map Prod.fst

/-- The stack after some terms; there is none if an operator finds too few values. -/
def run : Valuation → List Bool → Option (List Bool)
  | [], stack => some stack
  | (t, value) :: rest, stack => (t.evaluate value stack).bind (run rest)

theorem run_append (v w : Valuation) (stack : List Bool) :
    run (v ++ w) stack = (run v stack).bind (run w) := by
  induction v generalizing stack with
  | nil => rfl
  | cons first rest ih =>
    simp only [List.cons_append, run, Option.bind_assoc]
    congr 1
    funext after
    exact ih after

end Valuation

namespace Filter

/-- The terms of a filter, each with the truth value that an assignment gives to it. -/
def valued (truth : Term → Bool) (f : Filter) : Valuation := f.map fun t => (t, truth t)

/-- What a filter comes to: the values left on the stack, joined by `and`. -/
def meaning (truth : Term → Bool) (f : Filter) : Option Bool :=
  ((f.valued truth).run []).map fun stack => stack.all id

theorem valued_append (truth : Term → Bool) (f g : Filter) :
    valued truth (f ++ g) = valued truth f ++ valued truth g := List.map_append

@[simp] theorem filter_valued (truth : Term → Bool) (f : Filter) :
    (f.valued truth).filter = f := by
  simp [valued, Valuation.filter, Function.comp_def]

end Filter

end DeviceQuery
