import DeviceQuery.Json.Basic
import DeviceQuery.Json.Strings

/-!
# Reading JSON

One value with blanks around it. The readers take the characters that are left and give a value
with what follows it. The fuel bounds the calls that nest or follow one another; each second one
takes a character, so twice the length is enough.
-/

namespace DeviceQuery.Json

/-- The blanks of JSON. -/
def isBlank (c : Char) : Bool := c = ' ' || c = '\t' || c = '\n' || c = '\r'

/-- What is left after the blanks. -/
def skipBlanks (cs : List Char) : List Char := cs.dropWhile isBlank

/-- Splits off one digit or more. -/
def digits? (cs : List Char) : Option (List Char × List Char) :=
  match cs.takeWhile Char.isDigit with
  | [] => none
  | ds => some (ds, cs.dropWhile Char.isDigit)

/-- An integer without sign: zero alone, or digits that begin with another one. -/
def integer? : List Char → Option (List Char × List Char)
  | '0' :: rest =>
    match rest.takeWhile Char.isDigit with
    | [] => some (['0'], rest)
    | _ => none
  | cs => digits? cs

/-- The fraction that may follow an integer. -/
def fraction? : List Char → Option (List Char × List Char)
  | '.' :: rest => (digits? rest).map fun (ds, after) => ('.' :: ds, after)
  | cs => some ([], cs)

/-- The exponent that may end a number. -/
def exponent? : List Char → Option (List Char × List Char)
  | 'e' :: rest | 'E' :: rest =>
    match rest with
    | '+' :: r => (digits? r).map fun (ds, after) => ('e' :: '+' :: ds, after)
    | '-' :: r => (digits? r).map fun (ds, after) => ('e' :: '-' :: ds, after)
    | r => (digits? r).map fun (ds, after) => ('e' :: ds, after)
  | cs => some ([], cs)

/-- A number without its sign. -/
def unsigned? (cs : List Char) : Option (List Char × List Char) := do
  let (whole, cs) ← integer? cs
  let (fraction, cs) ← fraction? cs
  let (exponent, cs) ← exponent? cs
  some (whole ++ fraction ++ exponent, cs)

/-- A number. -/
def number? : List Char → Option (List Char × List Char)
  | '-' :: rest => (unsigned? rest).map fun (ds, after) => ('-' :: ds, after)
  | cs => unsigned? cs

/-- The body of a string, and what follows its closing quote. -/
def string? (cs : List Char) : Option (Option String × List Char) :=
  (pieces? cs).map fun (pieces, after) => ((joined? pieces).map String.ofList, after)

mutual

/-- One value with the blanks before it. -/
def value? : Nat → List Char → Option (Json × List Char)
  | 0, _ => none
  | fuel + 1, cs =>
    match skipBlanks cs with
    | 'n' :: 'u' :: 'l' :: 'l' :: rest => some (.null, rest)
    | 't' :: 'r' :: 'u' :: 'e' :: rest => some (.bool true, rest)
    | 'f' :: 'a' :: 'l' :: 's' :: 'e' :: rest => some (.bool false, rest)
    | '"' :: rest => (string? rest).map fun (text, after) => (.string text, after)
    | '[' :: rest =>
      match skipBlanks rest with
      | ']' :: after => some (.array [], after)
      | inner => (items? fuel inner).map fun (items, after) => (.array items, after)
    | '\x7b' :: rest =>
      match skipBlanks rest with
      | '\x7d' :: after => some (.object [], after)
      | inner => (members? fuel inner).map fun (members, after) => (.object members, after)
    | other => (number? other).map fun (digits, after) => (.number (String.ofList digits), after)

/-- The items of an array up to its closing bracket. -/
def items? : Nat → List Char → Option (List Json × List Char)
  | 0, _ => none
  | fuel + 1, cs => do
    let (item, after) ← value? fuel cs
    match skipBlanks after with
    | ',' :: rest =>
      let (items, after) ← items? fuel rest
      some (item :: items, after)
    | ']' :: rest => some ([item], rest)
    | _ => none

/-- The members of an object up to its closing brace. -/
def members? : Nat → List Char → Option (List (Option String × Json) × List Char)
  | 0, _ => none
  | fuel + 1, cs =>
    match skipBlanks cs with
    | '"' :: rest => do
      let (key, after) ← string? rest
      match skipBlanks after with
      | ':' :: rest =>
        let (value, after) ← value? fuel rest
        match skipBlanks after with
        | ',' :: rest =>
          let (members, after) ← members? fuel rest
          some ((key, value) :: members, after)
        | '\x7d' :: rest => some ([(key, value)], rest)
        | _ => none
      | _ => none
    | _ => none

end

/-- The value of a text that holds nothing else but blanks. -/
def parse? (text : String) : Option Json :=
  let cs := text.toList
  match value? (2 * cs.length + 2) cs with
  | some (value, after) => if skipBlanks after = [] then some value else none
  | none => none

end DeviceQuery.Json
