import DeviceQuery.Text.Pieces

/-!
# Arguments of the command line

The first argument that is no option is the path of a menu, the others are steps. Options begin
with two dashes; after two dashes alone nothing is an option any more. An option's value is
joined to it by an equals sign or is the next argument, unless that is an option itself.

An option that waits for its value, or whose value has just been given, is settled by the next
argument that is understood. So an unknown argument is reported before a fault of the option
before it.
-/

namespace DeviceQuery.CommandLine

/-- The options that take a value. -/
inductive Setting where
  | action
  | select
  | config
  | logConfig
deriving DecidableEq

/-- The options without a value. -/
inductive Switch where
  | json
  | strict
deriving DecidableEq

/-- What a long option can mean. -/
inductive Meaning where
  | setting (s : Setting)
  | switch (s : Switch)
  | help
  | version

/-- Why the arguments are not taken. -/
inductive Rejection where
  | unknownArgument
  /-- An option without its value, or an empty path of a file. -/
  | invalidValue
  /-- No path of a menu is given. -/
  | missingPath
  /-- An option is given twice. -/
  | repeatedOption
  /-- A value is joined to an option that takes none. -/
  | unneededValue
  | helpWanted
  | versionWanted
deriving DecidableEq

/-- What the arguments ask for. -/
structure Arguments where
  path : String
  steps : List String := []
  action : String := "/print"
  select : Option (List String) := none
  json : Bool := false
  strict : Bool := false
  config : Option String := none
  logConfig : Option String := none
deriving DecidableEq

/-- The arguments understood so far. -/
structure Progress where
  path : Option String := none
  steps : List String := []
  action : Option String := none
  select : Option (List String) := none
  json : Bool := false
  strict : Bool := false
  config : Option String := none
  logConfig : Option String := none
  /-- The option that is not settled yet, with its value if that has been given. -/
  pending : Option (Setting × Option String) := none

/-- What an option's name after the two dashes means. -/
def option? : String → Option Meaning
  | "action" => some (.setting .action)
  | "select" => some (.setting .select)
  | "config" => some (.setting .config)
  | "log-config" => some (.setting .logConfig)
  | "json" => some (.switch .json)
  | "strict" => some (.switch .strict)
  | "help" => some .help
  | "version" => some .version
  | _ => none

namespace Progress

/-- A path of a file as an option's first value. -/
def file? (old : Option String) (value : String) : Except Rejection (Option String) :=
  if old.isSome then .error .repeatedOption
  else if value = "" then .error .invalidValue
  else .ok (some value)

/-- Takes an option with its value. Fields to select add up, all other options stand once. -/
def take (p : Progress) (s : Setting) (value : String) : Except Rejection Progress :=
  match s with
  | .action =>
    if p.action.isSome then .error .repeatedOption else .ok { p with action := some value }
  | .select => .ok { p with select := some (p.select.getD [] ++ Text.parts ',' value) }
  | .config => (file? p.config value).map fun config => { p with config }
  | .logConfig => (file? p.logConfig value).map fun logConfig => { p with logConfig }

/-- Settles the option that is not settled yet. -/
def settle (p : Progress) : Except Rejection Progress :=
  match p.pending with
  | none => .ok p
  | some (_, none) => .error .invalidValue
  | some (s, some value) => { p with pending := none }.take s value

/-- Takes an option without a value. -/
def turnOn (p : Progress) (s : Switch) : Except Rejection Progress :=
  match s with
  | .json => if p.json then .error .repeatedOption else .ok { p with json := true }
  | .strict => if p.strict then .error .repeatedOption else .ok { p with strict := true }

/-- Takes an argument that is no option: first the path, then steps. -/
def position (p : Progress) (arg : String) : Except Rejection Progress := do
  let p ← p.settle
  match p.path with
  | none => .ok { p with path := some arg }
  | some _ => .ok { p with steps := p.steps ++ [arg] }

/-- Takes a long option, given what stands after its two dashes. -/
def long (p : Progress) (body : String) : Except Rejection Progress :=
  let (name, value) :=
    match Text.cut '=' body with
    | some (name, value) => (name, some value)
    | none => (body, none)
  match option? name, value with
  | some (.setting s), some value => do (← p.settle).take s value
  | some (.setting s), none => do .ok { ← p.settle with pending := some (s, none) }
  | some _, some _ => .error .unneededValue
  | some (.switch s), none => do (← p.settle).turnOn s
  | some .help, none => do
    let _ ← p.settle
    .error .helpWanted
  | some .version, none => do
    let _ ← p.settle
    .error .versionWanted
  | none, _ => .error .unknownArgument

/-- Takes a short option, given its letter. -/
def short (p : Progress) (letter : Char) : Except Rejection Progress :=
  match letter with
  | 'h' => do
    let _ ← p.settle
    .error .helpWanted
  | 'V' => do
    let _ ← p.settle
    .error .versionWanted
  | _ => .error .unknownArgument

/-- Takes an argument that is neither a long nor a short option. -/
def other (p : Progress) (arg : String) : Except Rejection Progress :=
  match p.pending with
  | some (s, none) => .ok { p with pending := some (s, some arg) }
  | _ => p.position arg

/-- Takes some arguments. -/
def takeAll (p : Progress) : List String → Except Rejection Progress
  | [] => .ok p
  | arg :: rest =>
    match arg.toList with
    | ['-', '-'] => rest.foldlM position p
    | '-' :: '-' :: body => do (← p.long (String.ofList body)).takeAll rest
    | '-' :: letter :: _ => do (← p.short letter).takeAll rest
    | _ => do (← p.other arg).takeAll rest

/-- What the arguments ask for, once all have been taken. -/
def finish (p : Progress) : Except Rejection Arguments := do
  let p ← p.settle
  match p.path with
  | none => .error .missingPath
  | some path =>
    .ok
      { path
        steps := p.steps
        action := p.action.getD "/print"
        select := p.select
        json := p.json
        strict := p.strict
        config := p.config
        logConfig := p.logConfig }

end Progress

/-- What some arguments ask for. -/
def Arguments.parse (args : List String) : Except Rejection Arguments := do
  (← Progress.takeAll {} args).finish

end DeviceQuery.CommandLine
