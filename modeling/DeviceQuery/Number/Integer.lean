import DeviceQuery.Number.Digits

/-!
# Fixed-width integers

The decimal texts of integers of a given width, with no bound on their length.
-/

namespace DeviceQuery

/-- A width of integers, in bits, with or without negative numbers. -/
structure Width where
  signed : Bool
  bits : Nat
deriving DecidableEq

namespace Width

/-- The number of integers of the width. -/
def size (w : Width) : Nat := Nat.pow 2 w.bits

/-- The least integer of the width; half of the integers of a signed width are negative. -/
def least (w : Width) : Int := if w.signed then -(w.size / 2) else 0

/-- The greatest integer of the width. -/
def greatest (w : Width) : Int := w.least + w.size - 1

/-- The integer a text spells: digits after a plus sign, a minus sign where the width has
negative numbers, or no sign. -/
def spelled? (w : Width) (text : List Char) : Option Int :=
  match text with
  | '+' :: digits => (Digits.read? digits).map fun n => n
  | '-' :: digits => if w.signed then (Digits.read? digits).map fun n => -(n : Int) else none
  | digits => (Digits.read? digits).map fun n => n

/-- The integer a text spells, if it is of this width. -/
def read? (w : Width) (text : String) : Option Int := do
  let n ← w.spelled? text.toList
  if w.least ≤ n ∧ n ≤ w.greatest then some n else none

end Width

end DeviceQuery
