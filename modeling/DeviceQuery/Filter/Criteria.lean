import DeviceQuery.Dict

/-!
# Criteria

What a filter call filters on: one attribute, or a batch of attributes in an order of their own.
-/

namespace DeviceQuery

/-- A value to compare an attribute with. -/
inductive Value where
  | text (s : String)
  | flag (b : Bool)
  | integer (n : Int)
deriving DecidableEq

/-- The device's spelling of a value: flags are `yes` and `no`, integers are decimal. -/
def Value.spelling : Value → String
  | text s => s
  | flag true => "yes"
  | flag false => "no"
  | integer n => toString n

/-- One attribute with its value, or an ordered batch of them. -/
inductive Criteria where
  | single (name : String) (value : Value)
  | batch (pairs : List (String × Value))
deriving DecidableEq

namespace Criteria

/-- An attribute without a value. -/
def key (name : String) : Criteria := single name (.text "")

/-- The batch of a dictionary, in the order of its keys. -/
def ofDict (d : Dict Value) : Criteria := batch d.entries

/-- The names with the spellings of their values, in order. -/
def pairs : Criteria → List (String × String)
  | single name value => [(name, value.spelling)]
  | batch ps => ps.map fun (name, value) => (name, value.spelling)

/-- The number of attributes. -/
def size (c : Criteria) : Nat := c.pairs.length

end Criteria

end DeviceQuery
