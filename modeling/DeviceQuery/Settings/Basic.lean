import DeviceQuery.Log.Record
import DeviceQuery.Settings.NameStyle

/-!
# Settings

The settings of a chain, and the environment variables that overlay them. A name style that the
variable misspells is reported and ignored; a strictness that is set but not recognised counts as
off.
-/

namespace DeviceQuery

/-- The settings of a chain. -/
structure Settings where
  nameStyle : NameStyle := .kebab
  /-- Check the balance of the filter before a sentence is sent. -/
  strict : Bool := false
deriving DecidableEq

/-- A look-up of environment variables. -/
abbrev Variables := String → Option String

namespace Settings

/-- The variable that names the style. -/
def styleVariable : String := "ROSQUERY_CASE_MODE"

/-- The variable that turns the check on or off. -/
def strictVariable : String := "ROSQUERY_STRICT"

/-- The texts that turn the check on, in any case. -/
def isYes (text : String) : Bool :=
  match text.toLower with
  | "1" | "true" | "yes" => true
  | _ => false

/-- The report of a style that is not taken over. -/
def styleWarning (f : Failure) : Log.Record :=
  ⟨.warn, .settings, "ignoring " ++ styleVariable ++ ": " ++ f.message⟩

/-- The style after a variable's value, with the report if the value names none. -/
def overlayStyle (style : NameStyle) : Option String → NameStyle × List Log.Record
  | none => (style, [])
  | some text =>
    match NameStyle.ofText text with
    | .ok named => (named, [])
    | .error f => (style, [styleWarning f])

/-- The strictness after a variable's value. -/
def overlayStrict (strict : Bool) : Option String → Bool
  | none => strict
  | some text => isYes text

/-- The settings with the variables laid over them, and what was reported. -/
def overlay (s : Settings) (vars : Variables) : Settings × List Log.Record :=
  let (nameStyle, reports) := overlayStyle s.nameStyle (vars styleVariable)
  ({ nameStyle, strict := overlayStrict s.strict (vars strictVariable) }, reports)

/-- The settings that the variables alone give. -/
def ofVariables (vars : Variables) : Settings × List Log.Record := overlay {} vars

end Settings

end DeviceQuery
