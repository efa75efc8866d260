import DeviceQuery.Number.Decimal

/-!
# Texts of doubles

A double is spelled with digits, a point, and an exponent, or by name. A point needs a digit on
at least one side, an exponent needs digits before and in it.
-/

namespace DeviceQuery.FloatText

/-- What a text of a double says. -/
inductive Reading where
  | decimal (d : Decimal)
  | infinite (negative : Bool)
  | notANumber
deriving DecidableEq

/-- The double that is meant. -/
def Reading.toFloat : Reading → Float
  | decimal d => d.toFloat
  | infinite false => 1.0 / 0.0
  | infinite true => -(1.0 / 0.0)
  | notANumber => 0.0 / 0.0

/-- The power of ten after the letter of an exponent. -/
def power? : List Char → Option Int
  | '+' :: digits => (Digits.read? digits).map fun n => n
  | '-' :: digits => (Digits.read? digits).map fun n => -(n : Int)
  | digits => (Digits.read? digits).map fun n => n

/-- The power of ten that ends a number; none is written for the power zero. -/
def exponent? : List Char → Option Int
  | [] => some 0
  | 'e' :: rest | 'E' :: rest => power? rest
  | _ => none

/-- A number without its sign. -/
def decimal? (negative : Bool) (cs : List Char) : Option Decimal :=
  let whole := cs.takeWhile Char.isDigit
  let (fraction, rest) :=
    match cs.dropWhile Char.isDigit with
    | '.' :: after => (after.takeWhile Char.isDigit, after.dropWhile Char.isDigit)
    | after => ([], after)
  if whole = [] ∧ fraction = [] then none
  else (exponent? rest).map (Decimal.ofParts negative whole fraction)

/-- A text without its sign; the names are known in any case. -/
def unsigned? (negative : Bool) (cs : List Char) : Option Reading :=
  match String.ofList (cs.map Char.toLower) with
  | "inf" | "infinity" => some (.infinite negative)
  | "nan" => some .notANumber
  | _ => (decimal? negative cs).map .decimal

/-- What a text says, if it is the text of a double. -/
def read? (text : String) : Option Reading :=
  match text.toList with
  | '+' :: rest => unsigned? false rest
  | '-' :: rest => unsigned? true rest
  | cs => unsigned? false cs

end DeviceQuery.FloatText
