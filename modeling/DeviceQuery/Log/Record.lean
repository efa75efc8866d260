import DeviceQuery.Log.Level

/-!
# Log records

A record carries a level, the part of the program it comes from, and a message. In a log file it
stands on a line of its own, with the time before it.
-/

namespace DeviceQuery.Log

/-- Where a record comes from. -/
inductive Target where
  /-- The sentences handed to a link. -/
  | sentence
  | settings
  | request
  | stream
  | link
deriving DecidableEq

/-- The target as it is written in a log. -/
def Target.text : Target → String
  | sentence => "rosquery::sentence"
  | settings => "rosquery::config"
  | request => "rosquery::query::exec"
  | stream => "rosquery::query::stream"
  | link => "rosquery::transport::memory"

/-- One record of a log. -/
structure Record where
  level : Level
  target : Target
  message : String
deriving DecidableEq

/-- A record with the text of the time at which it is logged. -/
structure Entry where
  time : String
  record : Record
deriving DecidableEq

/-- The line of an entry. -/
def Entry.line (e : Entry) : String :=
  e.time ++ " [" ++ e.record.level.name ++ "] " ++ e.record.target.text ++ " - " ++
    e.record.message ++ "\n"

/-- The entries of some records, where the clock gives the text of the time for each of them. -/
def stamped (clock : Nat → String) (records : List Record) : List Entry :=
  records.mapIdx fun i record => { time := clock i, record }

end DeviceQuery.Log
