import DeviceQuery.Number.Decimal

/-!
# TOML values

The value of a TOML document. A table remembers how it came about, because that decides what may
still be added to it; an array remembers whether its tables were written under headers.
-/

namespace DeviceQuery.Toml

/-- How a table came about. -/
inductive Origin where
  /-- Between braces; nothing can be added to it. -/
  | inline
  /-- By a header of its own, or as the table of a whole document. -/
  | header
  /-- As a step in the path of another table's header. -/
  | implied
  /-- As a step in a dotted key. -/
  | dotted
deriving DecidableEq

/-- A TOML value. -/
inductive Node where
  | string (text : String)
  | integer (n : Int)
  | float (d : Decimal)
  /-- Infinity, or not a number. -/
  | special
  | bool (b : Bool)
  | date
  | array (items : List Node)
  /-- The tables under the headers of an array. -/
  | tables (items : List Node)
  | table (origin : Origin) (entries : List (String × Node))

/-- The entries of a table. -/
abbrev Entries := List (String × Node)

/-- The value of a key. -/
def Entries.get? (entries : Entries) (key : String) : Option Node :=
  (entries.find? fun e => e.1 = key).map Prod.snd

/-- The entries with a key's value replaced, or with the key added at the end. -/
def Entries.put (key : String) (node : Node) : Entries → Entries
  | [] => [(key, node)]
  | (k, v) :: rest => if k = key then (key, node) :: rest else (k, v) :: put key node rest

mutual

/-- Every number in the value is within the range that a reader can hold: a float is finite, an
integer lies between -2^127 and 2^128 - 1. -/
def Node.inRange : Node → Bool
  | .integer n => -(2 ^ 127) ≤ n && n < 2 ^ 128
  | .float d => !d.toFloat.isInf
  | .array items => itemsInRange items
  | .tables items => itemsInRange items
  | .table _ entries => entriesInRange entries
  | _ => true

/-- Every item is within range. -/
def itemsInRange : List Node → Bool
  | [] => true
  | item :: rest => item.inRange && itemsInRange rest

/-- Every value of a table is within range. -/
def entriesInRange : List (String × Node) → Bool
  | [] => true
  | (_, value) :: rest => value.inRange && entriesInRange rest

end

end DeviceQuery.Toml
