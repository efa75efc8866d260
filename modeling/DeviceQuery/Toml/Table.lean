import DeviceQuery.Toml.Basic

/-!
# Building tables

A document adds to its tables in two ways. A dotted key adds below the table it stands in, and
only to tables that dotted keys made. A header leads to a table that has no header yet, or to a
new table at the end of an array.
-/

namespace DeviceQuery.Toml

/-- The last item with its entries changed, if it is a table. -/
def changeLast (change : Entries → Option Entries) : List Node → Option (List Node)
  | [] => none
  | [.table origin entries] => (change entries).map fun entries => [.table origin entries]
  | [_] => none
  | item :: rest => (changeLast change rest).map (item :: ·)

/-- Changes the table at the end of a path. `step` says which origin a table along the path gets
when it is not there yet, `passable` through which tables the path may lead. -/
def changeAt (step : Origin) (passable : Origin → Bool) (change : Origin → Entries → Option Entries)
    (origin : Origin) (entries : Entries) : List String → Option Entries
  | [] => change origin entries
  | name :: rest =>
    match entries.get? name with
    | none => do
      let inner ← changeAt step passable change step [] rest
      some (entries.put name (.table step inner))
    | some (.table inside inner) =>
      if passable inside then do
        let inner ← changeAt step passable change inside inner rest
        some (entries.put name (.table inside inner))
      else none
    | some (.tables items) => do
      let items ← changeLast (fun inner => changeAt step passable change .header inner rest) items
      some (entries.put name (.tables items))
    | some _ => none

/-- A dotted key leads through tables without a header. -/
def openToDots : Origin → Bool
  | .implied | .dotted => true
  | .header | .inline => false

/-- A header leads through every table but one between braces. -/
def openToHeaders : Origin → Bool
  | .inline => false
  | _ => true

/-- Sets a key below a table. The path before the last part has to end in a table that dotted
keys made; a key of one part stands in the table itself. -/
def define (entries : Entries) (path : List String) (key : String) (node : Node) :
    Option Entries :=
  changeAt .dotted openToDots
    (fun origin inner =>
      if decide (origin = .dotted) = path.isEmpty then none
      else if (inner.get? key).isSome then none
      else some (inner.put key node))
    .header entries path

/-- A key with the path before it and its value. -/
structure Definition where
  path : List String
  key : String
  node : Node

/-- The entries after some definitions. -/
def defineAll (entries : Entries) (definitions : List Definition) : Option Entries :=
  definitions.foldlM (fun entries d => define entries d.path d.key d.node) entries

/-- What a line in brackets opens. -/
inductive Header where
  | table (path : List String) (key : String)
  | item (path : List String) (key : String)

/-- The definitions under a header; those before the first header have none. -/
structure Section where
  header : Option Header
  definitions : List Definition

/-- The entries of a document after one more section. -/
def addSection (entries : Entries) (s : Section) : Option Entries :=
  match s.header with
  | none => defineAll entries s.definitions
  | some (.table path key) =>
    changeAt .implied openToHeaders
      (fun _ inner =>
        match inner.get? key with
        | none => do
          let content ← defineAll [] s.definitions
          some (inner.put key (.table .header content))
        | some (.table .implied content) => do
          let content ← defineAll content s.definitions
          some (inner.put key (.table .header content))
        | some _ => none)
      .header entries path
  | some (.item path key) =>
    changeAt .implied openToHeaders
      (fun _ inner => do
        let content ← defineAll [] s.definitions
        match inner.get? key with
        | none => some (inner.put key (.tables [.table .header content]))
        | some (.tables items) => some (inner.put key (.tables (items ++ [.table .header content])))
        | some _ => none)
      .header entries path

/-- The entries of a document. -/
def ofSections (sections : List Section) : Option Entries := sections.foldlM addSection []

end DeviceQuery.Toml
