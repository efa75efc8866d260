import DeviceQuery.Chain.Basic
import DeviceQuery.Text.Pieces

/-!
# Steps of the command line

A step is one filter call in the form `[op:]name[=value]`. What stands before the first colon is
the operator, unless it contains an equals sign: then the colon belongs to a value.
-/

namespace DeviceQuery.CommandLine

/-- The operators of steps. -/
inductive StepOperator where
  | given
  | andGiven
  | orGiven
  | notGiven
  | andNotGiven
  | orNotGiven
  | above
  | below
  | present
  | missing
  | option
  | raw
deriving DecidableEq

namespace StepOperator

/-- Every operator. -/
def all : List StepOperator :=
  [given, andGiven, orGiven, notGiven, andNotGiven, orNotGiven, above, below, present, missing,
    option, raw]

/-- The word of an operator. -/
def word : StepOperator → String
  | given => "where"
  | andGiven => "and"
  | orGiven => "or"
  | notGiven => "not"
  | andNotGiven => "and-not"
  | orNotGiven => "or-not"
  | above => "gt"
  | below => "lt"
  | present => "exists"
  | missing => "empty"
  | option => "opt"
  | raw => "raw"

/-- The operator of a word. -/
def ofWord? (w : String) : Option StepOperator := all.find? fun op => op.word = w

/-- The call of an operator on what stands after it. A raw step takes all of it as one word. -/
def call (op : StepOperator) (body : String) : Call :=
  let (name, value) := (Text.cut '=' body).getD (body, "")
  let criteria := Criteria.single name (.text value)
  match op with
  | given => .given criteria
  | andGiven => .andGiven criteria
  | orGiven => .orGiven criteria
  | notGiven => .notGiven criteria
  | andNotGiven => .andNotGiven criteria
  | orNotGiven => .orNotGiven criteria
  | above => .above name (.text value)
  | below => .below name (.text value)
  | present => .present name
  | missing => .missing name
  | option => .option name
  | raw => .raw [body]

end StepOperator

/-- The operator's word and the rest of a step. -/
def splitStep (step : String) : String × String :=
  match Text.cut ':' step with
  | some (op, body) =>
    if '=' ∈ op.toList then (StepOperator.given.word, step) else (op, body)
  | none => (StepOperator.given.word, step)

/-- The call that a step stands for. -/
def readStep (step : String) : Except Failure Call :=
  let (word, body) := splitStep step
  match StepOperator.ofWord? word with
  | some op => .ok (op.call body)
  | none => .error (.settings ("unknown step operator: " ++ word))

end DeviceQuery.CommandLine
