/-!
# Operators

The postfix operators of the device's query stack. Each takes its operands off the stack and puts
one value back.
-/

namespace DeviceQuery

/-- The operators of the device's query stack. -/
inductive Operator where
  | and
  | or
  | not
deriving DecidableEq

namespace Operator

/-- The word that stands for the operator in a sentence. -/
def word : Operator → String
  | and => "?#&"
  | or => "?#|"
  | not => "?#!"

/-- The operator a word stands for. -/
def ofWord? (w : String) : Option Operator :=
  if w = and.word then some and
  else if w = or.word then some or
  else if w = not.word then some not
  else none

/-- How many values the operator takes off the stack. -/
def arity : Operator → Nat
  | and | or => 2
  | not => 1

/-- The operator's name in a developer's view. -/
def name : Operator → String
  | and => "And"
  | or => "Or"
  | not => "Not"

@[simp] theorem ofWord?_word (op : Operator) : ofWord? op.word = some op := by
  cases op <;> decide

theorem arity_pos (op : Operator) : 0 < op.arity := by cases op <;> decide

end Operator

end DeviceQuery
