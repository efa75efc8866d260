import DeviceQuery.Text.Hidden

/-!
# Quoted texts

A text between double quotes in which nothing can be mistaken: the quote, the backslash and the
usual controls are escaped by a letter, every other hidden character by its code point in
braces. A list of texts is written with its members quoted, so commas and brackets inside a
member cannot be taken for the list's own.
-/

namespace DeviceQuery.Text

/-- The escape that spells a character by its code point in lower-case hexadecimal. -/
def codePointEscape (c : Char) : List Char :=
  ['\\', 'u', '\x7b'] ++ Nat.toDigits 16 c.toNat ++ ['\x7d']

/-- A character as it stands inside a quoted text. -/
def quotedChar (c : Char) : List Char :=
  if c = '\x00' then ['\\', '0']
  else if c = '\t' then ['\\', 't']
  else if c = '\r' then ['\\', 'r']
  else if c = '\n' then ['\\', 'n']
  else if c = '\\' then ['\\', '\\']
  else if c = '"' then ['\\', '"']
  else if isHidden c then codePointEscape c
  else [c]

/-- A text between double quotes. -/
def quoted (s : String) : String :=
  String.ofList ('"' :: s.toList.flatMap quotedChar ++ ['"'])

/-- A list in brackets, its members separated by a comma and a space. -/
def bracketed (members : List String) : String :=
  "[" ++ ", ".intercalate members ++ "]"

/-- A list of texts with every member quoted. -/
def quotedList (texts : List String) : String := bracketed (texts.map quoted)

end DeviceQuery.Text
