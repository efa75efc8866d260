import DeviceQuery.Log.Loggers
import DeviceQuery.Log.Rolling
import DeviceQuery.Log.SetUp
import DeviceQuery.Number.Integer

/-!
# Configuring the logs

Two appenders write the log files of a directory: one the sentences, the other all the rest. The
same threshold holds for both. What is configured first in a process stays, and logs all the
records of the process.
-/

namespace DeviceQuery.Log

/-- The variable that names the number of older files to keep. -/
def retentionVariable : String := "ROSQUERY_LOG_RETENTION"

/-- The bytes that a log file may have. -/
def fileLimit : Nat := 10 * 1024 * 1024

/-- The appender of a name, which writes to the file of this name. -/
def appender (directory name : String) (kept : Nat) : Appender where
  name
  path := Files.joined directory (name ++ ".log")
  pattern := Files.joined directory (name ++ ".\x7b\x7d.log")
  limit := fileLimit
  kept

/-- The name of the appender for sentences. -/
def sentenceAppender : String := "sentences"

/-- The name of the appender for all the rest. -/
def appAppender : String := "app"

/-- The loggers of a threshold. Sentences do not go on to the root. -/
def loggers (t : Threshold) : Loggers where
  root := { threshold := t, appenders := [appAppender] }
  named :=
    [(Target.sentence.text,
      { threshold := t, appenders := [sentenceAppender], additive := false })]

/-- What is there to write records after a set-up. -/
structure Configuration where
  appenders : List Appender
  loggers : Loggers

/-- The number of older files to keep, seven if nothing is said, and no more than fit 32 bits. -/
def keptFiles (retention : Option Nat) : Nat := min (retention.getD 7) (Nat.pow 2 32 - 1)

/-- The configuration for a directory. -/
def configuration (directory : String) (t : Threshold) (kept : Nat) : Configuration where
  appenders := [appender directory appAppender kept, appender directory sentenceAppender kept]
  loggers := loggers t

/-- Sets up the logs and configures what writes to them, in the directory `here` if no other one is
given: the configuration, unless the set-up fails, and the tree after it. -/
def configure (vars : Variables) (t : Files.Tree) (here : String) (directory level : Option String)
    (retention : Option Nat) : Except Files.Fault Configuration × Files.Tree :=
  let directory := directory.getD here
  match setUp vars t directory with
  | (.error fault, t) => (.error fault, t)
  | (.ok (), t) =>
    (.ok (configuration directory (Threshold.ofText? level) (keptFiles retention)), t)

/-- The number of older files that the variable asks for; a text that is no such number says
nothing. -/
def retentionOf (vars : Variables) : Option Nat := do
  let text ← vars retentionVariable
  let n ← Width.read? { signed := false, bits := 64 } text
  some n.toNat

/-- Configures the logs as the variables say. -/
def configureFromVariables (vars : Variables) (t : Files.Tree) (here : String) :
    Except Files.Fault Configuration × Files.Tree :=
  configure vars t here (vars directoryVariable) (vars levelVariable) (retentionOf vars)

/-! ## Logging -/

/-- Log files, by the names of the appenders that write to them. -/
abbrev Journal := String → LogFile

/-- No files. -/
def Journal.empty : Journal := fun _ => {}

namespace Configuration

/-- The files after an entry. An appender writes it as often as the record comes to it. -/
def write (c : Configuration) (j : Journal) (e : Entry) : Journal := fun name =>
  match c.appenders.find? fun a => a.name = name with
  | none => j name
  | some a =>
    (List.replicate ((c.loggers.appendersOf e.record).count name) e.line).foldl (LogFile.append a)
      (j name)

/-- The files after some entries. -/
def writeAll (c : Configuration) (j : Journal) (entries : List Entry) : Journal :=
  entries.foldl c.write j

end Configuration

/-- What logs the records of a process, with the files that it has written. -/
structure Logging where
  configuration : Configuration
  files : Journal

/-- What logs the records of a process after a configuration, given what did before and what the
files are. What is there already stays. -/
def install (running : Option Logging) (c : Configuration) (found : Journal) : Logging :=
  running.getD { configuration := c, files := fun name => (found name).opened }

/-- The files after some entries. -/
def Logging.log (l : Logging) (entries : List Entry) : Journal :=
  l.configuration.writeAll l.files entries

end DeviceQuery.Log
