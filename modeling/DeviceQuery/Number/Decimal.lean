import DeviceQuery.Number.Digits

/-!
# Decimal numbers

A decimal number is an integer times a power of ten. Its nearest double is found without ever
writing out a power that is far outside the range of doubles.
-/

namespace DeviceQuery

/-- The number `digits` times ten to the `exponent`, with a sign. -/
structure Decimal where
  negative : Bool
  digits : Nat
  exponent : Int
deriving DecidableEq

namespace Decimal

/-- The decimal of a whole part, the digits after the point, and a power of ten. -/
def ofParts (negative : Bool) (whole fraction : List Char) (power : Int) : Decimal :=
  { negative, digits := Digits.value (whole ++ fraction), exponent := power - fraction.length }

/-- How many places the number has before its point; negative if it starts after it. -/
def magnitude (d : Decimal) : Int := (Nat.toDigits 10 d.digits).length + d.exponent

/-- The nearest double of the number without its sign. Below 10^-330 that is zero, from 10^310 on
infinity. -/
def absoluteFloat (d : Decimal) : Float :=
  if d.digits = 0 ∨ d.magnitude < -330 then 0.0
  else if d.magnitude > 310 then 1.0 / 0.0
  else Float.ofScientific d.digits (d.exponent < 0) d.exponent.natAbs

/-- The nearest double. -/
def toFloat (d : Decimal) : Float :=
  if d.negative then -d.absoluteFloat else d.absoluteFloat

end Decimal

end DeviceQuery
