import DeviceQuery.Text.Pieces

/-!
# Projections

The attributes that a reply is to carry. The device keeps its internal attributes apart by a
leading dot, so a name that looks like one of them is asked for with the dot.
-/

namespace DeviceQuery.Menu

/-- The texts that mark a name as internal, wherever they stand in it. -/
def reservedTexts : List String := ["id", "dead", "nextid"]

/-- The name contains a text that marks it as internal. -/
def isReserved (name : String) : Bool :=
  reservedTexts.any fun text => Text.occursIn text.toList name.toList

/-- The name as it is asked for: with a dot if it is reserved and has none. -/
def escape (name : String) : String :=
  match name.toList with
  | '.' :: _ => name
  | _ => if isReserved name then "." ++ name else name

end DeviceQuery.Menu
