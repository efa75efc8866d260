/-!
# Log levels

The severity of a record, and the threshold a log admits records by.
-/

namespace DeviceQuery.Log

/-- How severe a record is, the most severe first. -/
inductive Level where
  | error
  | warn
  | info
  | debug
  | trace
deriving DecidableEq

/-- The level's name. -/
def Level.name : Level → String
  | error => "ERROR"
  | warn => "WARN"
  | info => "INFO"
  | debug => "DEBUG"
  | trace => "TRACE"

/-- The place of a level in the order of severity. -/
def Level.rank : Level → Nat
  | error => 1
  | warn => 2
  | info => 3
  | debug => 4
  | trace => 5

/-- What a log admits: nothing, or every record at least as severe as a level. -/
inductive Threshold where
  | off
  | upTo (level : Level)
deriving DecidableEq

namespace Threshold

/-- The threshold's name. -/
def name : Threshold → String
  | off => "OFF"
  | upTo level => level.name

/-- The rank of the least severe level admitted; `off` admits none. -/
def rank : Threshold → Nat
  | off => 0
  | upTo level => level.rank

/-- The threshold lets a record of this level through. -/
def admits (t : Threshold) (level : Level) : Bool := level.rank ≤ t.rank

/-- The threshold a text names, in any case; a text that names none means `info`. -/
def ofText (text : String) : Threshold :=
  match text.toLower with
  | "off" => off
  | "error" => upTo .error
  | "warn" => upTo .warn
  | "debug" => upTo .debug
  | "trace" => upTo .trace
  | _ => upTo .info

/-- The threshold where none is named. -/
def ofText? (text : Option String) : Threshold := ofText (text.getD "info")

end Threshold

end DeviceQuery.Log
