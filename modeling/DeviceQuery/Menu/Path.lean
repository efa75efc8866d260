import DeviceQuery.Text.Blank

/-!
# Menu paths

A menu path is a list of segments. Any text names one: slashes and blanks separate, and what
stands between them are the segments. The canonical text has one slash before each segment.
-/

namespace DeviceQuery.Menu

/-- Slashes and blanks separate the segments of a path. -/
def isSeparator (c : Char) : Bool := c = '/' || Text.isBlank c

/-- The longest runs of characters that are no separators, in order. -/
def runs (cs : List Char) : List (List Char) :=
  (cs.splitOnP isSeparator).filter fun run => !run.isEmpty

/-- The path of a text in its canonical form; the root is a single slash. -/
def path (text : String) : String :=
  "/" ++ "/".intercalate ((runs text.toList).map String.ofList)

/-- An action with the slash before it that it may lack; the empty action has none. -/
def slashed (action : String) : String :=
  match action.toList with
  | [] => ""
  | '/' :: _ => action
  | _ => "/" ++ action

/-- The command word of an action on a path. -/
def command (path action : String) : String := path ++ slashed action

end DeviceQuery.Menu
