import DeviceQuery.Number.Digits

/-!
# The lexical ground of TOML

Blanks, comments, ends of lines, strings and keys. The readers take the characters that are left
and give what they read with what follows it.
-/

namespace DeviceQuery.Toml

/-- A blank within a line. -/
def isBlank (c : Char) : Bool := c = ' ' || c = '\t'

/-- A character that may stand in a comment or a string: no control but the tab, and no DEL. -/
def isPlain (c : Char) : Bool := c = '\t' || (0x20 ≤ c.toNat && c.toNat ≠ 0x7F)

/-- What is left after the blanks of the line. -/
def skipBlanks (cs : List Char) : List Char := cs.dropWhile isBlank

/-- What is left after a comment, which runs to the end of the line. -/
def skipComment : List Char → List Char
  | '#' :: rest => rest.dropWhile isPlain
  | cs => cs

/-- What is left after the end of a line, if it is here: a line feed with or without a carriage
return, or the end of the document. -/
def newline? : List Char → Option (List Char)
  | '\n' :: rest => some rest
  | '\r' :: '\n' :: rest => some rest
  | [] => some []
  | _ => none

/-- What is left after the rest of a line that holds nothing but blanks and a comment. -/
def endLine? (cs : List Char) : Option (List Char) := newline? (skipComment (skipBlanks cs))

/-- What is left after blanks, comments and ends of lines. -/
def skipTrivia : Nat → List Char → List Char
  | 0, cs => cs
  | fuel + 1, cs =>
    match skipComment (skipBlanks cs) with
    | '\n' :: rest => skipTrivia fuel rest
    | '\r' :: '\n' :: rest => skipTrivia fuel rest
    | other => other

/-! ## Strings -/

/-- The quote of literal strings. -/
def singleQuote : Char := Char.ofNat 39

/-- The character whose code point hexadecimal digits spell; surrogates are none. -/
def codePoint? (digits : List Char) : Option Char := do
  let n ← Digits.readHex? digits
  if n < 0xD800 ∨ (0xDFFF < n ∧ n < 0x110000) then some (Char.ofNat n) else none

/-- The character that a letter stands for after a backslash. -/
def letterEscape? : Char → Option Char
  | 'b' => some '\x08'
  | 't' => some '\t'
  | 'n' => some '\n'
  | 'f' => some '\x0c'
  | 'r' => some '\r'
  | 'e' => some '\x1b'
  | '"' => some '"'
  | '\\' => some '\\'
  | _ => none

/-- A piece of text before what is read after it. -/
def before (c : Char) : Option (List Char × List Char) → Option (List Char × List Char)
  | some (cs, rest) => some (c :: cs, rest)
  | none => none

/-- The body of a string in double quotes, on one line. -/
def basic? : List Char → Option (List Char × List Char)
  | [] => none
  | '"' :: rest => some ([], rest)
  | '\\' :: 'x' :: a :: b :: rest => do
    let e ← codePoint? [a, b]
    before e (basic? rest)
  | '\\' :: 'u' :: a :: b :: c :: d :: rest => do
    let e ← codePoint? [a, b, c, d]
    before e (basic? rest)
  | '\\' :: 'U' :: a :: b :: c :: d :: e :: f :: g :: h :: rest => do
    let e ← codePoint? [a, b, c, d, e, f, g, h]
    before e (basic? rest)
  | '\\' :: e :: rest => do
    let c ← letterEscape? e
    before c (basic? rest)
  | c :: rest => if c ≠ '\\' ∧ isPlain c then before c (basic? rest) else none

/-- The body of a string in single quotes, on one line. -/
def literal? : List Char → Option (List Char × List Char)
  | [] => none
  | c :: rest =>
    if c = singleQuote then some ([], rest)
    else if isPlain c then before c (literal? rest)
    else none

/-- Where the reader of a string over several lines stands after a backslash. -/
inductive Fold where
  /-- In the text. -/
  | text
  /-- Between a backslash and the end of its line, where only blanks may stand. -/
  | lineEnd
  /-- After that end of line, where blanks and further ends of lines are dropped. -/
  | margin
deriving DecidableEq

/-- The quotes that close a string over several lines: three, after at most two that belong to
the string. -/
def closing? (quote : Char) : List Char → Option (List Char × List Char)
  | a :: b :: c :: d :: e :: rest =>
    if a = quote ∧ b = quote ∧ c = quote then
      if d = quote ∧ e = quote then some ([quote, quote], rest)
      else if d = quote then some ([quote], e :: rest)
      else some ([], d :: e :: rest)
    else none
  | [a, b, c, d] =>
    if a = quote ∧ b = quote ∧ c = quote then
      if d = quote then some ([quote], []) else some ([], [d])
    else none
  | [a, b, c] => if a = quote ∧ b = quote ∧ c = quote then some ([], []) else none
  | _ => none

/-- The body of a string in three double quotes. -/
def multiBasic? (fold : Fold) : List Char → Option (List Char × List Char)
  | [] => none
  | '\r' :: '\n' :: rest =>
    match fold with
    | .text => before '\n' (multiBasic? .text rest)
    | .lineEnd | .margin => multiBasic? .margin rest
  | '\\' :: 'x' :: a :: b :: rest =>
    if fold = .lineEnd then none
    else do
      let e ← codePoint? [a, b]
      before e (multiBasic? .text rest)
  | '\\' :: 'u' :: a :: b :: c :: d :: rest =>
    if fold = .lineEnd then none
    else do
      let e ← codePoint? [a, b, c, d]
      before e (multiBasic? .text rest)
  | '\\' :: 'U' :: a :: b :: c :: d :: e :: f :: g :: h :: rest =>
    if fold = .lineEnd then none
    else do
      let e ← codePoint? [a, b, c, d, e, f, g, h]
      before e (multiBasic? .text rest)
  | '\\' :: '\n' :: rest => if fold = .lineEnd then none else multiBasic? .margin rest
  | '\\' :: '\r' :: '\n' :: rest => if fold = .lineEnd then none else multiBasic? .margin rest
  | '\\' :: e :: rest =>
    if fold = .lineEnd then none
    else if isBlank e then multiBasic? .lineEnd rest
    else do
      let c ← letterEscape? e
      before c (multiBasic? .text rest)
  | c :: rest =>
    if fold = .lineEnd ∧ ¬ isBlank c ∧ c ≠ '\n' then none
    else if c = '\n' then
      if fold = .text then before '\n' (multiBasic? .text rest) else multiBasic? .margin rest
    else if fold ≠ .text ∧ isBlank c then multiBasic? fold rest
    else
      match closing? '"' (c :: rest) with
      | some closed => some closed
      | none =>
        if c ≠ '\\' ∧ isPlain c then before c (multiBasic? .text rest) else none

/-- The body of a string in three single quotes. -/
def multiLiteral? : List Char → Option (List Char × List Char)
  | [] => none
  | '\r' :: '\n' :: rest => before '\n' (multiLiteral? rest)
  | c :: rest =>
    match closing? singleQuote (c :: rest) with
    | some closed => some closed
    | none => if c = '\n' ∨ isPlain c then before c (multiLiteral? rest) else none

/-- What is left after the line feed that may follow the opening quotes. -/
def dropFirstNewline : List Char → List Char
  | '\n' :: rest => rest
  | '\r' :: '\n' :: rest => rest
  | cs => cs

/-- A string of any of the four kinds, from its opening quote on. -/
def string? (cs : List Char) : Option (List Char × List Char) :=
  match cs with
  | a :: b :: c :: rest =>
    if a = '"' ∧ b = '"' ∧ c = '"' then multiBasic? .text (dropFirstNewline rest)
    else if a = singleQuote ∧ b = singleQuote ∧ c = singleQuote then
      multiLiteral? (dropFirstNewline rest)
    else if a = '"' then basic? (b :: c :: rest)
    else if a = singleQuote then literal? (b :: c :: rest)
    else none
  | a :: rest => if a = '"' then basic? rest else if a = singleQuote then literal? rest else none
  | [] => none

/-! ## Keys -/

/-- A character of a key without quotes. -/
def isKeyChar (c : Char) : Bool := c.isAlphanum || c = '_' || c = '-'

/-- A key without dots. -/
def key? (cs : List Char) : Option (String × List Char) :=
  match cs with
  | [] => none
  | c :: rest =>
    if c = '"' then (basic? rest).map fun (name, after) => (String.ofList name, after)
    else if c = singleQuote then
      (literal? rest).map fun (name, after) => (String.ofList name, after)
    else if isKeyChar c then
      some (String.ofList (cs.takeWhile isKeyChar), cs.dropWhile isKeyChar)
    else none

/-- The parts of a key with dots; blanks may stand around the dots. -/
def parts? : Nat → List Char → Option (List String × List Char)
  | 0, _ => none
  | fuel + 1, cs => do
    let (name, after) ← key? (skipBlanks cs)
    match skipBlanks after with
    | '.' :: rest =>
      let (names, after) ← parts? fuel rest
      some (name :: names, after)
    | after => some ([name], after)

/-- Nothing nests deeper than this: neither brackets and braces nor the parts of a key. -/
def depthLimit : Nat := 80

/-- A key with dots, as the path of its parts. -/
def path? (cs : List Char) : Option (List String × List Char) := do
  let (names, after) ← parts? cs.length cs
  if names.length ≤ depthLimit then some (names, after) else none

end DeviceQuery.Toml
