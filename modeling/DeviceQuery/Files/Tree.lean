import DeviceQuery.Files.Fault

/-!
# File trees

What lies below a root directory, as a list of places with their kinds. A path is walked from the
root name by name; a single dot stays where it is, two dots lead one up, and the root lies above
itself. Every name but the last has to lead to a directory.
-/

namespace DeviceQuery.Files

/-- The names that lead from the root to a place. -/
abbrev Place := List String

/-- What stands at a place. -/
inductive Kind where
  | file
  | directory
deriving DecidableEq

/-- The places below a root directory, each with its kind. -/
abbrev Tree := List (Place × Kind)

/-- The names in a path, dots included; between two slashes in a row there is none. -/
def names (path : String) : List String :=
  ((path.toList.splitOn '/').map String.ofList).filter fun n => n ≠ ""

/-- A path that ends in a slash leads to a directory only. -/
def endsInSlash (path : String) : Bool := path.toList.getLast? = some '/'

/-- The path of a file in a directory, with a slash between the two unless one is there. -/
def joined (directory file : String) : String :=
  if directory = "" ∨ endsInSlash directory then directory ++ file else directory ++ "/" ++ file

namespace Tree

/-- What stands at a place; the root is a directory. -/
def kind? (t : Tree) (p : Place) : Option Kind :=
  if p = [] then some .directory else (t.find? fun e => e.1 = p).map Prod.snd

/-- Adds a place where there is none. -/
def add (t : Tree) (p : Place) (k : Kind) : Tree :=
  if (t.kind? p).isSome then t else t ++ [(p, k)]

theorem kind?_add (t : Tree) (p q : Place) (k : Kind) :
    (t.add p k).kind? q = if q = p ∧ t.kind? p = none then some k else t.kind? q := by
  unfold add kind?
  grind

/-- The directory at a place. -/
def directory (t : Tree) (p : Place) : Except Fault Place :=
  match t.kind? p with
  | some .directory => .ok p
  | some .file => .error .notDirectory
  | none => .error .missing

/-- The place that a name leads to from a directory, whether something stands there or not. -/
def next (here : Place) (name : String) : Except Fault Place :=
  if name = "." then .ok here
  else if name = ".." then .ok here.dropLast
  else if 255 < name.utf8ByteSize then .error .tooLong
  else .ok (here ++ [name])

/-- The place that names lead to from another place. Every one of them is looked up in a
directory. -/
def walk (t : Tree) (here : Place) : List String → Except Fault Place
  | [] => .ok here
  | name :: rest => do
    let there ← next (← t.directory here) name
    t.walk there rest

/-- What stands at the end of a path. -/
def find (t : Tree) (path : String) : Except Fault (Place × Kind) := do
  let place ← t.walk [] (names path)
  match t.kind? place with
  | none => .error .missing
  | some .file => if endsInSlash path then .error .notDirectory else .ok (place, .file)
  | some .directory => .ok (place, .directory)

/-- All places below a base as paths from there in ascending order, directories with a slash at the
end. -/
def listing (t : Tree) (base : Place) : List String :=
  let below := t.filter fun (p, _) => base.isPrefixOf p && p ≠ base
  let paths := below.map fun (p, k) =>
    "/".intercalate (p.drop base.length) ++ match k with
      | .file => ""
      | .directory => "/"
  paths.mergeSort

end Tree

end DeviceQuery.Files
