/-!
# Conditions

A condition compares an attribute with a value. With a question mark the device evaluates it;
without one it is a plain attribute word.
-/

namespace DeviceQuery

/-- Whether the device evaluates a condition or takes it as a plain attribute word. -/
inductive Marker where
  | query
  | plain
deriving DecidableEq

/-- What a condition asks of its attribute. `absent` asks that it is missing or empty. -/
inductive Comparison where
  | equal
  | greater
  | less
  | absent
deriving DecidableEq

namespace Marker

/-- What a marked word begins with. -/
def sign : Marker → String
  | query => "?"
  | plain => ""

/-- The marker's name in a developer's view. -/
def name : Marker → String
  | query => "Query"
  | plain => "Plain"

end Marker

namespace Comparison

/-- What stands before the attribute's name. -/
def sign : Comparison → String
  | equal => ""
  | greater => ">"
  | less => "<"
  | absent => "-"

/-- The comparison's name in a developer's view. -/
def name : Comparison → String
  | equal => "Equal"
  | greater => "Greater"
  | less => "Less"
  | absent => "Absent"

end Comparison

/-- A comparison of an attribute with a value; the empty value means that none is given. -/
structure Condition where
  marker : Marker
  comparison : Comparison
  name : String
  value : String
deriving DecidableEq

/-- The word of a condition: marker, comparison, name, and the value after `=` unless it is
empty. -/
def Condition.word (c : Condition) : String :=
  c.marker.sign ++ c.comparison.sign ++ c.name ++ if c.value = "" then "" else "=" ++ c.value

end DeviceQuery
