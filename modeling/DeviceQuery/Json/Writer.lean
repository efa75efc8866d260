/-!
# Writing JSON

Arrays and objects of strings on one line, without blanks. A string escapes the quote, the
backslash and the controls below the space; every other character stands as it is.
-/

namespace DeviceQuery.Json

/-- A digit of a hexadecimal number, in lower case. -/
def hexDigit (n : Nat) : Char := Nat.digitChar (n % 16)

/-- A character as it stands inside a string. -/
def writtenChar (c : Char) : List Char :=
  if c = '"' then ['\\', '"']
  else if c = '\\' then ['\\', '\\']
  else if c = '\x08' then ['\\', 'b']
  else if c = '\x0c' then ['\\', 'f']
  else if c = '\n' then ['\\', 'n']
  else if c = '\r' then ['\\', 'r']
  else if c = '\t' then ['\\', 't']
  else if c.toNat < 0x20 then
    ['\\', 'u', '0', '0', hexDigit (c.toNat / 16), hexDigit c.toNat]
  else [c]

/-- The characters of a string between double quotes. -/
def writtenChars (cs : List Char) : List Char := '"' :: cs.flatMap writtenChar ++ ['"']

/-- A string between double quotes. -/
def written (s : String) : String := String.ofList (writtenChars s.toList)

/-- An array of strings. -/
def writtenArray (texts : List String) : String :=
  "[" ++ ",".intercalate (texts.map written) ++ "]"

/-- An object whose values are strings. -/
def writtenObject (entries : List (String × String)) : String :=
  "\x7b" ++ ",".intercalate (entries.map fun (k, v) => written k ++ ":" ++ written v) ++ "\x7d"

end DeviceQuery.Json
