import DeviceQuery.Item.Basic
import DeviceQuery.Number.Float
import DeviceQuery.Number.Integer

/-!
# Typed attributes

An attribute's text read as a value of a type. A missing attribute and a text that does not spell
a value of the type read alike.
-/

namespace DeviceQuery

/-- The types an attribute can be read as. -/
inductive FieldType where
  | integer (width : Width)
  | float
  | bool
  | char
  | text
deriving DecidableEq

/-- An attribute read as a value. -/
inductive FieldValue where
  | integer (n : Int)
  | float (reading : FloatText.Reading)
  | bool (b : Bool)
  | char (c : Char)
  | text (s : String)
deriving DecidableEq

/-- Truth is spelled in full. -/
def readBool? : String → Option Bool
  | "true" => some true
  | "false" => some false
  | _ => none

/-- A text of exactly one character. -/
def readChar? (text : String) : Option Char :=
  match text.toList with
  | [c] => some c
  | _ => none

/-- The value of a type that a text spells. -/
def FieldType.read? (type : FieldType) (text : String) : Option FieldValue :=
  match type with
  | integer width => (width.read? text).map .integer
  | float => (FloatText.read? text).map .float
  | bool => (readBool? text).map .bool
  | char => (readChar? text).map .char
  | .text => some (.text text)

/-- An attribute's value as a value of a type. -/
def Item.getAs? (item : Item) (type : FieldType) (key : String) : Option FieldValue :=
  (item.get? key).bind type.read?

end DeviceQuery
