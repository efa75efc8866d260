import DeviceQuery.Failure
import DeviceQuery.Text.Blank

/-!
# Name styles

The device separates the words of an attribute's name by dashes. The snake style renames
attributes of reply rows to underscores; it never touches what is sent.
-/

namespace DeviceQuery

/-- The spelling of attribute names in wrapped rows. -/
inductive NameStyle where
  | kebab
  | snake
deriving DecidableEq

namespace NameStyle

/-- The style's own name. -/
def name : NameStyle → String
  | kebab => "kebab"
  | snake => "snake"

/-- The style's name in a developer's view. -/
def title : NameStyle → String
  | kebab => "Kebab"
  | snake => "Snake"

/-- The style with exactly this name. -/
def ofName? (text : String) : Option NameStyle :=
  if text = kebab.name then some kebab
  else if text = snake.name then some snake
  else none

/-- An attribute's name in this style. -/
def rename : NameStyle → String → String
  | kebab, key => key
  | snake, key => key.map fun c => if c = '-' then '_' else c

/-- The form in which a text is compared with the styles' names. -/
def folded (text : String) : String := (Text.trim text).toLower

/-- The style a text names, with blanks around it and in any case. Each style has a second
name. -/
def ofText (text : String) : Except Failure NameStyle :=
  match folded text with
  | "kebab" | "dash" => .ok kebab
  | "snake" | "snake_case" => .ok snake
  | other => .error (.settings ("unknown case mode: " ++ other))

end NameStyle

end DeviceQuery
