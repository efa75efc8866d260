import DeviceQuery.Dict
import DeviceQuery.Json.Reader
import DeviceQuery.Json.Writer
import DeviceQuery.Settings.NameStyle

/-!
# Rows and items

A row of a reply maps attribute names to values, exactly as the device sent them. An item is a
row with its attributes renamed to a style; where two names become one, the value of the greater
name stays.
-/

namespace DeviceQuery

/-- A row of a reply. -/
abbrev Row := Dict String

/-- The attribute that identifies an item of a menu. -/
def idName : String := ".id"

/-- A row whose attributes are renamed to a style. -/
structure Item where
  row : Row
deriving DecidableEq

namespace Item

/-- Wraps a row; its attributes are renamed in ascending order. -/
def ofRow (style : NameStyle) (row : Row) : Item :=
  ⟨Dict.ofList (row.entries.map fun (key, value) => (style.rename key, value))⟩

/-- The value of an attribute. -/
def get? (item : Item) (key : String) : Option String := item.row.get? key

/-- The identifier. -/
def id? (item : Item) : Option String := item.get? idName

/-- The attribute is set to one of the device's two spellings of truth. -/
def isYes (item : Item) (key : String) : Bool :=
  match item.get? key with
  | some "true" | some "yes" => true
  | _ => false

/-- The attributes as a JSON object, in ascending order. -/
def json (item : Item) : String := Json.writtenObject item.row.entries

/-- The item of a JSON object of strings; of members with one name the last one counts. -/
def ofJson? (text : String) : Option Item := do
  let value ← Json.parse? text
  let entries ← value.entries?
  some ⟨Dict.ofList entries⟩

end Item

end DeviceQuery
