import DeviceQuery.Files.Growth
import DeviceQuery.Log.Record
import DeviceQuery.Settings.Basic
import DeviceQuery.Text.Alphanumeric
import DeviceQuery.Text.Pieces

/-!
# Setting up the logs

Setting up makes the directory of the logs and opens the two log files in it, first the
application log. What was there before stays as it is, also where the set-up fails half way.
-/

namespace DeviceQuery.Log

/-- The application log. -/
def appFile : String := "app.log"

/-- The sentence log. -/
def sentenceFile : String := "sentences.log"

/-- The variable that names the directory of the logs. -/
def directoryVariable : String := "ROSQUERY_LOG_DIR"

/-- The variable that names the threshold. -/
def levelVariable : String := "ROSQUERY_LOG_LEVEL"

/-! ## Variables in paths -/

/-- What opens the name of a variable in a path. -/
def opening : List Char := ['$', 'E', 'N', 'V', '\x7b']

/-- What closes the name of a variable in a path. -/
def closing : Char := '\x7d'

/-- A character of a variable's name; the first one is no dot. -/
def isNameChar (first : Bool) (c : Char) : Bool :=
  Text.isAlphanumeric c || c = '_' || (!first && c = '.')

/-- The name of a variable up to its closing brace. -/
def variableName? (first : Bool) : List Char → Option (List Char)
  | [] => none
  | c :: rest =>
    if c = closing then (if first then none else some [])
    else if isNameChar first c then (variableName? false rest).map (c :: ·)
    else none

/-- The names of the variables that a path mentions, in order. -/
def mentioned : List Char → List (List Char)
  | [] => []
  | c :: rest =>
    let name? :=
      if opening.isPrefixOf (c :: rest) then variableName? true ((c :: rest).drop opening.length)
      else none
    name?.toList ++ mentioned rest

/-- A path with every mention of one variable replaced by its value. A variable that is not set
stands as it is. -/
def substituted (vars : Variables) (path name : List Char) : List Char :=
  match vars (String.ofList name) with
  | some value => Text.replaced (opening ++ name ++ [closing]) value.toList path
  | none => path

/-- A path with the values of the variables that it mentions. They are replaced one after the
other in the order of their mentions, each also where the value of an earlier one mentions it. -/
def expandedPath (vars : Variables) (path : String) : String :=
  String.ofList ((mentioned path.toList).foldl (substituted vars) path.toList)

/-! ## The two files -/

/-- Opens a log file, making the directories that lead to it: whether that worked, and the tree
after it. -/
def openLog (vars : Variables) (t : Files.Tree) (path : String) :
    Except Files.Fault Unit × Files.Tree :=
  let path := expandedPath vars path
  match Files.pathFault? path with
  | some fault => (.error fault, t)
  | none =>
    let names := Files.names path
    match t.makeDirectories (names.filter (· ≠ ".")).dropLast with
    | (.error fault, t) => (.error fault, t)
    | (.ok (), t) => t.settled (t.openFile names)

/-- Sets up the logs in a directory: whether that worked, and the tree after it. -/
def setUp (vars : Variables) (t : Files.Tree) (directory : String) :
    Except Files.Fault Unit × Files.Tree :=
  match Files.pathFault? directory with
  | some fault => (.error fault, t)
  | none =>
    match t.makeDirectories (Files.names directory) with
    | (.error fault, t) => (.error fault, t)
    | (.ok (), t) =>
      match openLog vars t (Files.joined directory appFile) with
      | (.error fault, t) => (.error fault, t)
      | (.ok (), t) => openLog vars t (Files.joined directory sentenceFile)

end DeviceQuery.Log
