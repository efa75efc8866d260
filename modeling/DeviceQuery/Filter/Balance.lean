import DeviceQuery.Failure
import DeviceQuery.Filter.Basic

/-!
# Balance of operators and operands

The device evaluates a filter on a stack. `Filter.check` follows the height of that stack and
names the first operator that finds too few operands. Values left over are no fault, for the
device joins them. A raw word that starts with `?#` and is none of the known operators has an
effect nobody here knows, so what follows it is not checked.
-/

namespace DeviceQuery

/-- What a term does to the device's stack. -/
inductive Effect where
  | push
  | apply (op : Operator)
  | skip
  | unknown
deriving DecidableEq

/-- The effect of a raw word, read off its first characters. -/
def rawEffect (word : String) : Effect :=
  match word.toList with
  | '?' :: '#' :: _ =>
    match Operator.ofWord? word with
    | some op => .apply op
    | none => .unknown
  | '?' :: _ => .push
  | _ => .skip

/-- The effect of a term; a condition without a question mark leaves the stack alone. -/
def Term.effect : Term → Effect
  | .condition c =>
    match c.marker with
    | .query => .push
    | .plain => .skip
  | .operator op => .apply op
  | .raw word => rawEffect word

/-- An operator that finds too few operands. -/
structure Shortfall where
  operator : Operator
  /-- The operator's index among the terms. -/
  position : Nat
  needed : Nat
  found : Nat
deriving DecidableEq

/-- The shortfall in words. -/
def Shortfall.message (s : Shortfall) : String :=
  "operator " ++ s.operator.word ++ " at position " ++ toString s.position ++ " needs " ++
    toString s.needed ++ " operand(s), found " ++ toString s.found

namespace Filter

/-- Checks the terms from `position` on, with `height` values on the stack. -/
def checkFrom (position height : Nat) : Filter → Except Shortfall Unit
  | [] => .ok ()
  | t :: rest =>
    match t.effect with
    | .push => checkFrom (position + 1) (height + 1) rest
    | .skip => checkFrom (position + 1) height rest
    | .unknown => .ok ()
    | .apply op =>
      if height < op.arity then .error ⟨op, position, op.arity, height⟩
      else checkFrom (position + 1) (height - op.arity + 1) rest

/-- Names the first operator without enough operands, if there is one. -/
def check (f : Filter) : Except Shortfall Unit := checkFrom 0 0 f

/-- Fails with the words for the first operator without enough operands, if there is one. -/
def validate (f : Filter) : Except Failure Unit :=
  match f.check with
  | .ok () => .ok ()
  | .error s => .error (.malformed s.message)

theorem validate_of_ok {f : Filter} (balanced : f.check = .ok ()) : f.validate = .ok () := by
  rw [validate, balanced]

theorem validate_of_error {f : Filter} {s : Shortfall} (unbalanced : f.check = .error s) :
    f.validate = .error (.malformed s.message) := by
  rw [validate, unbalanced]

end Filter

end DeviceQuery
