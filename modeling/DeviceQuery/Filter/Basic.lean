import DeviceQuery.Filter.Criteria
import DeviceQuery.Sentence.Condition
import DeviceQuery.Sentence.Operator

/-!
# Filters

A filter is an ordered list of terms, which the device evaluates as a postfix expression. Terms
are only ever added at the end.
-/

namespace DeviceQuery

/-- A term of a filter. A raw word is the caller's own and is sent as it stands. -/
inductive Term where
  | condition (c : Condition)
  | operator (op : Operator)
  | raw (word : String)
deriving DecidableEq

/-- The word a term is sent as. -/
def Term.word : Term → String
  | condition c => c.word
  | operator op => op.word
  | raw w => w

/-- The terms of a filter, oldest first. -/
abbrev Filter := List Term

/-- One condition for each attribute of the criteria, in their order. -/
def Criteria.terms (c : Criteria) (marker : Marker) (comparison : Comparison) : List Term :=
  c.pairs.map fun (name, value) => .condition { marker, comparison, name, value }

namespace Filter

/-- The words of a filter, in order. -/
def words (f : Filter) : List String := f.map Term.word

/-- The filter with the conditions of some criteria at its end. -/
def addCriteria (f : Filter) (c : Criteria) (marker : Marker) (comparison : Comparison) : Filter :=
  f ++ c.terms marker comparison

/-- The filter with an operator at its end. -/
def addOperator (f : Filter) (op : Operator) : Filter := f ++ [.operator op]

/-- The filter with a raw word at its end. -/
def addRaw (f : Filter) (word : String) : Filter := f ++ [.raw word]

/-- The filter with the conditions of some criteria and the operators after them at its end. -/
def addJoined (f : Filter) (c : Criteria) (marker : Marker) (comparison : Comparison)
    (ops : List Operator) : Filter :=
  ops.foldl addOperator (f.addCriteria c marker comparison)

theorem foldl_addOperator (f : Filter) (ops : List Operator) :
    ops.foldl addOperator f = f ++ ops.map Term.operator := by
  induction ops generalizing f with
  | nil => simp
  | cons op ops ih => simp [ih, addOperator]

theorem foldl_addRaw (f : Filter) (words : List String) :
    words.foldl addRaw f = f ++ words.map Term.raw := by
  induction words generalizing f with
  | nil => simp
  | cons word words ih => simp [ih, addRaw]

theorem addJoined_eq (f : Filter) (c : Criteria) (marker : Marker) (comparison : Comparison)
    (ops : List Operator) :
    f.addJoined c marker comparison ops =
      f ++ (c.terms marker comparison ++ ops.map Term.operator) := by
  rw [addJoined, foldl_addOperator, addCriteria, List.append_assoc]

end Filter

end DeviceQuery
