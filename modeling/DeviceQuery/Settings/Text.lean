import DeviceQuery.Files.Fault
import DeviceQuery.Json.Reader
import DeviceQuery.Settings.Basic
import DeviceQuery.Toml.Reader

/-!
# Settings as text

Settings are read from TOML and from JSON. Both know the two settings by their keys, take the
default for a setting that is not given, and pass over every other key. A style stands as its
name, or as an object or table that has the name as its one key and nothing in it. What is said of
a text that is not taken, its `reason`, is up to those who read the two formats.
-/

namespace DeviceQuery.Settings

/-- The key of the style. -/
def styleKey : String := "case_mode"

/-- The key of the strictness. -/
def strictKey : String := "strict_expressions"

/-! ## TOML -/

/-- The style that a node stands for. -/
def styleOfNode? : Toml.Node → Option NameStyle
  | .string text => NameStyle.ofName? text
  | .table _ [(name, .table _ [])] => NameStyle.ofName? name
  | .table _ [(name, .array [])] => NameStyle.ofName? name
  | _ => none

/-- The strictness that a node stands for. -/
def strictOfNode? : Toml.Node → Option Bool
  | .bool b => some b
  | _ => none

/-- What the entries say for a key, or else the default. -/
def entry? {α : Type} (entries : Toml.Entries) (key : String) (read : Toml.Node → Option α)
    (otherwise : α) : Option α :=
  match entries.get? key with
  | none => some otherwise
  | some node => read node

/-- The settings that a TOML text gives. Every number in it has to be within range, also under the
keys that are passed over. -/
def ofToml? (text : String) : Option Settings := do
  let entries ← Toml.parse? text
  let nameStyle ← entry? entries styleKey styleOfNode? .kebab
  let strict ← entry? entries strictKey strictOfNode? false
  if Toml.entriesInRange entries then some { nameStyle, strict } else none

/-- The settings of a TOML text. -/
def ofToml (reason : String → String) (text : String) : Except Failure Settings :=
  match ofToml? text with
  | some s => .ok s
  | none => .error (.toml (reason text))

/-! ## JSON -/

/-- The style that a value stands for. -/
def styleOfJson? : Json → Option NameStyle
  | .string (some text) => NameStyle.ofName? text
  | .object [(some name, .null)] => NameStyle.ofName? name
  | _ => none

/-- The strictness that a value stands for. -/
def strictOfJson? : Json → Option Bool
  | .bool b => some b
  | _ => none

/-- What the members say for a key, or else the default; a key given twice says nothing. -/
def member? {α : Type} (members : List (Option String × Json)) (key : String)
    (read : Json → Option α) (otherwise : α) : Option α :=
  match members.filter fun m => m.1 = some key with
  | [] => some otherwise
  | [(_, value)] => read value
  | _ => none

/-- The settings that a value stands for: an object, or an array that gives the style and the
strictness in this order. -/
def ofValue? : Json → Option Settings
  | .object members =>
    if members.any fun m => m.1.isNone then none
    else do
      let nameStyle ← member? members styleKey styleOfJson? .kebab
      let strict ← member? members strictKey strictOfJson? false
      some { nameStyle, strict }
  | .array [] => some {}
  | .array [style] => do some { nameStyle := ← styleOfJson? style }
  | .array [style, strict] => do
    some { nameStyle := ← styleOfJson? style, strict := ← strictOfJson? strict }
  | _ => none

/-- The settings of a JSON text. -/
def ofJson (reason : String → String) (text : String) : Except Failure Settings :=
  match (Json.parse? text).bind ofValue? with
  | some s => .ok s
  | none => .error (.json (reason text))

/-! ## Files -/

/-- The settings of a TOML file, given its path and what is found there. -/
def ofFile (reason : String → String) (path : String) (found : Files.Found) :
    Except Failure Settings :=
  match found.read path with
  | .ok text => ofToml reason text
  | .error f => .error (.io (path ++ ": " ++ f.text))

end DeviceQuery.Settings
