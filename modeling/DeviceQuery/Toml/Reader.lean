import DeviceQuery.Toml.Lexical
import DeviceQuery.Toml.Scalar
import DeviceQuery.Toml.Table

/-!
# Reading TOML

Values, lines and documents. Two bounds limit the readers of values: the fuel, of which each call
takes one and each second call a character, and the depth, since brackets and braces may nest
only so far.
-/

namespace DeviceQuery.Toml

/-- A path of keys as the definition of a node. -/
def Definition.ofPath? (path : List String) (node : Node) : Option Definition :=
  match path.reverse with
  | [] => none
  | key :: rest => some { path := rest.reverse, key, node }

mutual

/-- One value, in brackets and braces `depth` deep. -/
def value? : Nat → Nat → List Char → Option (Node × List Char)
  | 0, _, _ => none
  | fuel + 1, depth, cs =>
    match cs with
    | '[' :: rest =>
      if depth < depthLimit then do
        let (items, after) ← items? fuel (depth + 1) rest
        some (.array items, after)
      else none
    | '\x7b' :: rest =>
      if depth < depthLimit then do
        let (definitions, after) ← definitions? fuel (depth + 1) rest
        let entries ← defineAll [] definitions
        some (.table .inline entries, after)
      else none
    | c :: _ =>
      if c = '"' ∨ c = singleQuote then do
        let (text, after) ← string? cs
        some (.string (String.ofList text), after)
      else scalar? cs
    | [] => none

/-- The items of an array up to its closing bracket; a comma may follow the last one. -/
def items? : Nat → Nat → List Char → Option (List Node × List Char)
  | 0, _, _ => none
  | fuel + 1, depth, cs =>
    match skipTrivia cs.length cs with
    | ']' :: rest => some ([], rest)
    | inner => do
      let (item, after) ← value? fuel depth inner
      match skipTrivia after.length after with
      | ',' :: rest =>
        let (items, after) ← items? fuel depth rest
        some (item :: items, after)
      | ']' :: rest => some ([item], rest)
      | _ => none

/-- The definitions of a table between braces up to its closing brace; a comma may follow the
last one, and lines may end anywhere but within a key. -/
def definitions? : Nat → Nat → List Char → Option (List Definition × List Char)
  | 0, _, _ => none
  | fuel + 1, depth, cs =>
    match skipTrivia cs.length cs with
    | '\x7d' :: rest => some ([], rest)
    | inner => do
      let (path, after) ← path? inner
      match skipTrivia after.length after with
      | '=' :: rest =>
        let (node, after) ← value? fuel depth (skipTrivia rest.length rest)
        let definition ← Definition.ofPath? path node
        match skipTrivia after.length after with
        | ',' :: rest =>
          let (definitions, after) ← definitions? fuel depth rest
          some (definition :: definitions, after)
        | '\x7d' :: rest => some ([definition], rest)
        | _ => none
      | _ => none

end

/-- A line of a document that holds more than blanks and a comment. -/
inductive Line where
  | header (h : Header)
  | definition (d : Definition)

/-- A header up to its closing brackets. -/
def header? (cs : List Char) : Option (Header × List Char) :=
  match cs with
  | '[' :: rest => do
    let (path, after) ← path? rest
    match path.reverse, after with
    | key :: path, ']' :: ']' :: after => some (.item path.reverse key, after)
    | _, _ => none
  | rest => do
    let (path, after) ← path? rest
    match path.reverse, after with
    | key :: path, ']' :: after => some (.table path.reverse key, after)
    | _, _ => none

/-- A key with its value. -/
def definition? (cs : List Char) : Option (Definition × List Char) := do
  let (path, after) ← path? cs
  match after with
  | '=' :: rest =>
    let (node, after) ← value? (2 * rest.length + 2) 0 (skipBlanks rest)
    let definition ← Definition.ofPath? path node
    some (definition, after)
  | _ => none

/-- A line and what is left after its end. -/
def line? (cs : List Char) : Option (Line × List Char) := do
  match cs with
  | '[' :: rest =>
    let (h, after) ← header? rest
    let after ← endLine? after
    some (.header h, after)
  | _ =>
    let (d, after) ← definition? cs
    let after ← endLine? after
    some (.definition d, after)

/-- The lines of a document. -/
def lines? : Nat → List Char → Option (List Line)
  | 0, _ => none
  | fuel + 1, cs =>
    match skipTrivia cs.length cs with
    | [] => some []
    | rest => do
      let (line, after) ← line? rest
      let lines ← lines? fuel after
      some (line :: lines)

/-- The sections that lines make up, given the header they stand under. -/
def sections (header : Option Header) : List Line → List Section
  | [] => [⟨header, []⟩]
  | .header h :: rest => ⟨header, []⟩ :: sections (some h) rest
  | .definition d :: rest =>
    match sections header rest with
    | first :: others => { first with definitions := d :: first.definitions } :: others
    | [] => []

/-- The entries of a document, which may begin with a byte order mark. -/
def parse? (text : String) : Option Entries := do
  let cs :=
    match text.toList with
    | '\uFEFF' :: rest => rest
    | cs => cs
  let lines ← lines? (cs.length + 1) cs
  ofSections (sections none lines)

end DeviceQuery.Toml
