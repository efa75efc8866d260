import DeviceQuery.Toml.Basic

/-!
# Scalars of TOML without quotes

Numbers, truth values and dates. A scalar is the longest run of characters that can stand in one;
what it means is decided by the run as a whole.
-/

namespace DeviceQuery.Toml

/-- A character of a scalar without quotes. -/
def isScalarChar (c : Char) : Bool :=
  c.isAlphanum || c = '_' || c = '+' || c = '-' || c = '.' || c = ':'

/-! ## Numbers -/

/-- Digits that may have single underscores between them, without these. -/
def grouped? (isDigit : Char → Bool) (cs : List Char) : Option (List Char) :=
  let groups := cs.splitOn '_'
  if groups.all fun g => !g.isEmpty && g.all isDigit then some groups.flatten else none

/-- Decimal digits of a whole number: zero alone, or digits that begin with another one. -/
def whole? (cs : List Char) : Option (List Char) := do
  let digits ← grouped? Char.isDigit cs
  match digits with
  | '0' :: _ :: _ => none
  | _ => some digits

/-- The sign before a number. -/
def signed : List Char → Bool × List Char
  | '+' :: rest => (false, rest)
  | '-' :: rest => (true, rest)
  | cs => (false, cs)

/-- The number of digits to a base; the digits are those below it. -/
def based? (base : Nat) (cs : List Char) : Option Node := do
  let below (c : Char) : Bool :=
    match Digits.hexValue? c with
    | some v => v < base
    | none => false
  let digits ← grouped? below cs
  let n := digits.foldl (fun n c => base * n + (Digits.hexValue? c).getD 0) 0
  some (.integer n)

/-- An integer, decimal with a sign or to another base without one. -/
def integer? (cs : List Char) : Option Node :=
  match cs with
  | '0' :: 'x' :: digits => based? 16 digits
  | '0' :: 'o' :: digits => based? 8 digits
  | '0' :: 'b' :: digits => based? 2 digits
  | _ => do
    let (negative, rest) := signed cs
    let digits ← whole? rest
    let n : Int := Digits.value digits
    some (.integer (if negative then -n else n))

/-- The power of ten of an exponent; its digits may begin with zeros. -/
def power? (cs : List Char) : Option Int := do
  let (negative, rest) := signed cs
  let digits ← grouped? Char.isDigit rest
  let n : Int := Digits.value digits
  some (if negative then -n else n)

/-- A float: a whole number with a fraction, an exponent, or both. -/
def float? (cs : List Char) : Option Node := do
  let (negative, rest) := signed cs
  let isE (c : Char) : Bool := c = 'e' || c = 'E'
  let mantissa := rest.takeWhile fun c => !isE c
  let tail := (rest.dropWhile fun c => !isE c).drop 1
  let hasPower := rest.any isE
  let power ← if hasPower then power? tail else some 0
  let whole ← whole? (mantissa.takeWhile (· ≠ '.'))
  match mantissa.dropWhile (· ≠ '.') with
  | [] => if hasPower then some (.float (Decimal.ofParts negative whole [] power)) else none
  | _ :: fraction => do
    let fraction ← grouped? Char.isDigit fraction
    some (.float (Decimal.ofParts negative whole fraction power))

/-- Infinity or not a number, with a sign or without one. -/
def special? (cs : List Char) : Option Node :=
  let (_, rest) := signed cs
  if rest = ['i', 'n', 'f'] ∨ rest = ['n', 'a', 'n'] then some .special else none

/-! ## Dates -/

/-- Splits off a number of exactly `width` digits that lies between two bounds. -/
def field? (width low high : Nat) (cs : List Char) : Option (Nat × List Char) :=
  let digits := cs.take width
  if digits.length = width ∧ digits.all Char.isDigit then
    let n := Digits.value digits
    if low ≤ n ∧ n ≤ high then some (n, cs.drop width) else none
  else none

/-- What is left after a given character. -/
def after? (c : Char) : List Char → Option (List Char)
  | d :: rest => if d = c then some rest else none
  | [] => none

/-- A year with 29 days in February. -/
def isLeap (year : Nat) : Bool := year % 4 = 0 && (year % 100 ≠ 0 || year % 400 = 0)

/-- The number of days of a month. -/
def daysIn (year month : Nat) : Nat :=
  if month = 2 then (if isLeap year then 29 else 28)
  else if month = 4 ∨ month = 6 ∨ month = 9 ∨ month = 11 then 30
  else 31

/-- What is left after a date of the calendar. -/
def calendar? (cs : List Char) : Option (List Char) := do
  let (year, cs) ← field? 4 0 9999 cs
  let (month, cs) ← field? 2 1 12 (← after? '-' cs)
  let (_, cs) ← field? 2 1 (daysIn year month) (← after? '-' cs)
  some cs

/-- What is left after the seconds and their fraction; a minute may have a leap second. -/
def seconds? (cs : List Char) : Option (List Char) := do
  let (_, cs) ← field? 2 0 60 cs
  match cs with
  | '.' :: rest =>
    if (rest.takeWhile Char.isDigit).isEmpty then none else some (rest.dropWhile Char.isDigit)
  | _ => some cs

/-- What is left after a time of day, which may end with the minutes. -/
def clock? (cs : List Char) : Option (List Char) := do
  let (_, cs) ← field? 2 0 23 cs
  let (_, cs) ← field? 2 0 59 (← after? ':' cs)
  match cs with
  | ':' :: rest => seconds? rest
  | _ => some cs

/-- The distance from universal time, up to the end of the scalar. -/
def offset? : List Char → Option Unit
  | ['Z'] | ['z'] => some ()
  | '+' :: cs | '-' :: cs => do
    let (_, cs) ← field? 2 0 23 cs
    let (_, cs) ← field? 2 0 59 (← after? ':' cs)
    if cs.isEmpty then some () else none
  | _ => none

/-- A date, a time of day, or both with or without an offset. -/
def date? (cs : List Char) : Option Node :=
  match calendar? cs with
  | some [] => some .date
  | some (sep :: rest) =>
    if sep = 'T' ∨ sep = 't' ∨ sep = ' ' then
      match clock? rest with
      | some [] => some .date
      | some rest => (offset? rest).map fun _ => .date
      | none => none
    else none
  | none => if clock? cs = some [] then some .date else none

/-! ## Scalars -/

/-- The value of a scalar without quotes. -/
def meaning? (cs : List Char) : Option Node :=
  if cs = "true".toList then some (.bool true)
  else if cs = "false".toList then some (.bool false)
  else special? cs <|> integer? cs <|> float? cs <|> date? cs

/-- The run of characters that makes up a scalar. A date may be parted from its time of day by one
space. -/
def scalarRun (cs : List Char) : List Char × List Char :=
  let run := cs.takeWhile isScalarChar
  let rest := cs.dropWhile isScalarChar
  match rest with
  | ' ' :: d :: more =>
    if calendar? run = some [] ∧ d.isDigit then
      (run ++ ' ' :: (d :: more).takeWhile isScalarChar, (d :: more).dropWhile isScalarChar)
    else (run, rest)
  | _ => (run, rest)

/-- A scalar without quotes. -/
def scalar? (cs : List Char) : Option (Node × List Char) :=
  let (run, rest) := scalarRun cs
  (meaning? run).map fun node => (node, rest)

end DeviceQuery.Toml
