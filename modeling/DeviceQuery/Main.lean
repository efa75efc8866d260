import DeviceQuery.CommandLine.Run
import DeviceQuery.Log.Stamp

/-!
# The program

Reads the arguments, the variables and the file of settings, and writes what the run gives.
-/

open DeviceQuery

/-- The variables that the program looks at, as they are set: its own, and those that the directory
of the logs mentions. -/
def readVariables : IO Variables := do
  let directory := ((← IO.getEnv Log.directoryVariable).getD "").toList
  let names := [Settings.styleVariable, Settings.strictVariable, Log.directoryVariable,
    Log.levelVariable, Log.retentionVariable] ++ (Log.mentioned directory).map String.ofList
  let entries ← names.filterMapM fun name => do
    return (← IO.getEnv name).map fun value => (name, value)
  return (Dict.ofList entries).get?

/-- What is found at a path. A directory can be opened, so the fault of reading it names no file. -/
def readFound (path : String) : IO Files.Found := do
  try
    return .ok (← IO.FS.readBinFile path)
  catch e =>
    match e with
    | .permissionDenied .. => return .error .denied
    | .invalidArgument .. => return .error .tooLong
    | .inappropriateType none .. => return .error .isDirectory
    | .inappropriateType (some _) .. => return .error .notDirectory
    | _ => return .error .missing

/-- The text of the present time, read off a file that is made for it. -/
def readClock : IO String := do
  let (_, path) ← IO.FS.createTempFile
  let time := (← path.metadata).modified
  IO.FS.removeFile path
  return Log.stamp time.sec time.nsec.toNat

/-- Each of the older files of an appender takes the next place; what stands in the last place is
lost. -/
def moveOlder (place : Nat → String) : Nat → IO Unit
  | 0 => return
  | number + 1 => do
    try
      IO.FS.rename (place number) (place (number + 1))
    catch _ => pure ()
    moveOlder place number

/-- Writes a line to the file of an appender, which gives way to a new one if it is outgrown. -/
def writeLine (vars : Variables) (a : Log.Appender) (line : String) : IO Unit := do
  let path := Log.expandedPath vars a.path
  IO.FS.withFile path .append fun file => file.putStr line
  if a.outgrown (← IO.FS.readBinFile path).size then
    let place (number : Nat) := Log.expandedPath vars (a.olderPath number)
    if a.kept = 0 then IO.FS.removeFile path
    else
      moveOlder place (a.kept - 1)
      IO.FS.rename path (place 0)

/-- Writes the log files if they are asked for. Nothing is written unless both can be opened, and a
fault there does not stop the program. -/
def writeLogs (a : CommandLine.Arguments) (vars : Variables) (records : List Log.Record) :
    IO Unit := do
  unless CommandLine.logsByVariables a vars do return
  let some directory := vars Log.directoryVariable | return
  let c := Log.configuration directory (Log.Threshold.ofText? (vars Log.levelVariable))
    (Log.keptFiles (Log.retentionOf vars))
  try
    IO.FS.createDirAll directory
    for appender in c.appenders do
      IO.FS.createDirAll (Log.expandedPath vars directory)
      IO.FS.withFile (Log.expandedPath vars appender.path) .append fun _ => return
    let time ← readClock
    for entry in Log.stamped (fun _ => time) records do
      for name in c.loggers.appendersOf entry.record do
        for appender in c.appenders.filter (·.name = name) do
          writeLine vars appender entry.line
  catch _ => return

/-- What is said of a file of settings that is not taken. -/
def reason (_ : String) : String := "the text does not hold these settings"

/-- Ends the program. -/
def finish (e : CommandLine.Ending) : IO UInt32 := do
  IO.print e.stdout
  IO.eprint e.stderr
  return e.code.toUInt32

/-- The program. -/
def main (args : List String) : IO UInt32 := do
  match CommandLine.Arguments.parse args with
  | .error r => finish r.ending
  | .ok a =>
    let vars ← readVariables
    let found ← match a.config with
      | some path => readFound path
      | none => pure (.error .missing)
    let report := CommandLine.run reason a (fun _ => found) vars
    writeLogs a vars report.records
    finish report.ending
