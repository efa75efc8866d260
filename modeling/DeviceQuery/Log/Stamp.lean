/-!
# Time stamps

The text of a time: date, time of day and milliseconds, in universal time. The calendar repeats
itself every 400 years, which have 146097 days; counted from the first of March, the leap day
comes last in a year.
-/

namespace DeviceQuery.Log

/-- A day of the calendar. -/
structure Day where
  year : Int
  month : Nat
  day : Nat
deriving DecidableEq

/-- The day that lies `days` after the first of January 1970. -/
def Day.ofDays (days : Int) : Day :=
  let shifted := days + 719468
  let era := shifted / 146097
  let dayOfEra := (shifted % 146097).toNat
  let yearOfEra :=
    (dayOfEra - dayOfEra / 1460 + dayOfEra / 36524 - dayOfEra / 146096) / 365
  let dayOfYear := dayOfEra - (365 * yearOfEra + yearOfEra / 4 - yearOfEra / 100)
  let fromMarch := (5 * dayOfYear + 2) / 153
  let month := if fromMarch < 10 then fromMarch + 3 else fromMarch - 9
  { year := era * 400 + yearOfEra + if month ≤ 2 then 1 else 0
    month
    day := dayOfYear - (153 * fromMarch + 2) / 5 + 1 }

/-- A number with zeros before it up to a width. -/
def padded (width n : Nat) : String :=
  let digits := Nat.toDigits 10 n
  String.ofList (List.replicate (width - digits.length) '0' ++ digits)

/-- The text of a time, given in seconds since the first of January 1970 and nanoseconds. -/
def stamp (seconds : Int) (nanoseconds : Nat) : String :=
  let day := Day.ofDays (seconds / 86400)
  let clock := (seconds % 86400).toNat
  padded 4 day.year.toNat ++ "-" ++ padded 2 day.month ++ "-" ++ padded 2 day.day ++ " " ++
    padded 2 (clock / 3600) ++ ":" ++ padded 2 (clock / 60 % 60) ++ ":" ++ padded 2 (clock % 60) ++
    "." ++ padded 3 (nanoseconds / 1000000)

end DeviceQuery.Log
