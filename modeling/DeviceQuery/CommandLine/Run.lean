import DeviceQuery.CommandLine.Arguments
import DeviceQuery.CommandLine.Step
import DeviceQuery.Json.Writer
import DeviceQuery.Log.Configuration
import DeviceQuery.Settings.Text

/-!
# Running the command line

A run prints the sentence that the arguments describe, one word on a line or all of them as a
JSON array. A run that fails prints nothing.
-/

namespace DeviceQuery.CommandLine

/-- What is found at each path. -/
abbrev FileSystem := String → Files.Found

/-- What a run prints, and what it logs. -/
structure Report where
  output : Except Failure String
  records : List Log.Record

/-- The settings of a run: those of the file if one is given, with the variables laid over
them. -/
def settings (reason : String → String) (a : Arguments) (files : FileSystem) (vars : Variables) :
    Except Failure Settings × List Log.Record :=
  let base : Except Failure Settings :=
    match a.config with
    | some path => Settings.ofFile reason path (files path)
    | none => .ok {}
  match base with
  | .error f => (.error f, [])
  | .ok base =>
    let (s, records) := base.overlay vars
    (.ok { s with strict := a.strict || s.strict }, records)

/-- The calls of the steps, or the failure of the first step that stands for none. -/
def stepCalls : List String → Except Failure (List Call)
  | [] => .ok []
  | step :: rest => do
    let call ← readStep step
    let calls ← stepCalls rest
    .ok (call :: calls)

/-- The chain of a run. -/
def chain (a : Arguments) (s : Settings) : Except Failure Chain := do
  let calls ← stepCalls a.steps
  .ok ((Chain.on a.path s).applyAll ((a.select.map Call.select).toList ++ calls))

/-- The words of a sentence as they are printed. -/
def printed (json : Bool) (words : List String) : String :=
  if json then Json.writtenArray words ++ "\n" else String.join (words.map (· ++ "\n"))

/-- What a run prints with its settings. No link is there to check the chain, so under strict
settings the run does it. -/
def output (a : Arguments) (s : Settings) : Except Failure String := do
  let q ← chain a s
  (if s.strict then q.validate else .ok ()).map fun _ =>
    printed a.json (q.sentence a.action).words

/-- A run. A file of settings that is not taken is refused for a `reason` that its text gives. -/
def run (reason : String → String) (a : Arguments) (files : FileSystem) (vars : Variables) :
    Report :=
  match settings reason a files vars with
  | (.error f, records) => { output := .error f, records }
  | (.ok s, records) => { output := output a s, records }

/-! ## The process -/

/-- The name and version of the program. -/
def version : String := "rosq 0.1.0\n"

/-- How the program is called. -/
def usage : String := "Usage: rosq [OPTIONS] <PATH> [STEPS]...\n"

/-- The help of the program. -/
def help : String :=
  "Compile device menu queries into API sentences\n\n" ++ usage ++
  "\nArguments:\n" ++
  "  <PATH>      Menu path, e.g. /interface or \"ip address\"\n" ++
  "  [STEPS]...  Filter steps, e.g. type=ether and:running=yes or-not:disabled=yes\n" ++
  "\nOptions:\n" ++
  "      --action <ACTION>          Action appended to the path (empty for none)" ++
  " [default: /print]\n" ++
  "      --select <SELECT>          Comma-separated fields to return\n" ++
  "      --json                     Print the sentence as a JSON array\n" ++
  "      --strict                   Reject filter expressions whose operators lack operands\n" ++
  "      --config <CONFIG>          Path to a config file (TOML). If omitted, defaults and" ++
  " environment are used.\n" ++
  "      --log-config <LOG_CONFIG>  Path to a log4rs YAML config\n" ++
  "  -h, --help                     Print help\n" ++
  "  -V, --version                  Print version\n"

/-- The reason of a rejection. -/
def Rejection.reason : Rejection → String
  | unknownArgument => "unexpected argument found"
  | invalidValue => "a value is required for an option but none was supplied"
  | missingPath => "the following required arguments were not provided:\n  <PATH>"
  | repeatedOption => "an option cannot be used multiple times"
  | unneededValue => "unexpected value for an option found; no more were expected"
  | helpWanted => "help is wanted"
  | versionWanted => "the version is wanted"

/-- How a process ends: its exit code and what it writes. -/
structure Ending where
  code : Nat := 0
  stdout : String := ""
  stderr : String := ""

/-- The end of a process whose arguments are not taken; to ask for help or for the version is no
fault. -/
def Rejection.ending : Rejection → Ending
  | helpWanted => { stdout := help }
  | versionWanted => { stdout := version }
  | r =>
    { code := 2
      stderr := "error: " ++ r.reason ++ "\n\n" ++ usage ++
        "\nFor more information, try '--help'.\n" }

/-- The end of a process after a run. -/
def Report.ending (r : Report) : Ending :=
  match r.output with
  | .ok text => { stdout := text }
  | .error f => { code := 2, stderr := "error: " ++ f.message ++ "\n" }

/-- The log files are configured by the variables where these name a directory and the arguments
name no logging config. -/
def logsByVariables (a : Arguments) (vars : Variables) : Bool :=
  a.logConfig.isNone && (vars Log.directoryVariable).isSome

end DeviceQuery.CommandLine
