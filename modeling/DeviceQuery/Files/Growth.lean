import DeviceQuery.Files.Tree

/-!
# Growing file trees

Making directories and opening files for writing. Operations only ever add places: a place keeps
its kind, and an operation that finds the wrong kind fails. What had been added before a failure
stays.
-/

namespace DeviceQuery.Files.Tree

/-- Makes one directory where nothing stands yet. -/
def makeDirectory (t : Tree) (path : List String) : Except Fault Tree := do
  let place ← t.walk [] path
  if (t.kind? place).isSome then .error .exists else .ok (t.add place .directory)

/-- The path leads to a directory. -/
def isDirectory (t : Tree) (path : List String) : Bool :=
  match t.walk [] path with
  | .ok place => t.kind? place = some .directory
  | .error _ => false

/-- Makes one directory, unless it is there already. -/
def ensureDirectory (t : Tree) (path : List String) : Except Fault Tree :=
  match t.makeDirectory path with
  | .ok t => .ok t
  | .error f => if t.isDirectory path then .ok t else .error f

/-- Whether an operation worked, and the tree after it. -/
def settled (t : Tree) : Except Fault Tree → Except Fault Unit × Tree
  | .ok t => (.ok (), t)
  | .error f => (.error f, t)

/-- Makes one directory; where nothing leads there yet, after something else has been made. -/
def ensureAfter (t : Tree) (before : Tree → Except Fault Unit × Tree) (path : List String) :
    Except Fault Unit × Tree :=
  match t.ensureDirectory path with
  | .error .missing =>
    match before t with
    | (.error f, t) => (.error f, t)
    | (.ok (), t) => t.settled (t.ensureDirectory path)
  | result => t.settled result

/-- Makes a directory and those above it, given the names that lead there, the last one first. -/
def ensureAll (t : Tree) : List String → Except Fault Unit × Tree
  | [] => (.ok (), t)
  | name :: above => t.ensureAfter (fun t => t.ensureAll above) (above.reverse ++ [name])

/-- Makes the directory at the end of a path and those above it. A path that ends in a single dot
makes those above it only, so its last directory has to be there. -/
def makeDirectories (t : Tree) (path : List String) : Except Fault Unit × Tree :=
  let above := (path.filter (· ≠ ".")).reverse
  if path.getLast? = some "." then t.ensureAfter (fun t => t.ensureAll above.tail) path
  else t.ensureAll above

/-- Opens a file for writing at its end; one that is not there is made. -/
def openFile (t : Tree) (path : List String) : Except Fault Tree := do
  let place ← t.walk [] path
  match t.kind? place with
  | some .directory => .error .isDirectory
  | _ => .ok (t.add place .file)

end DeviceQuery.Files.Tree
