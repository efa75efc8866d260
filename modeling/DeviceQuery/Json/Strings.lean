import DeviceQuery.Number.Digits

/-!
# Strings of JSON

The body of a string is read in two passes: first into pieces, one for each character or escape,
then into a text. An escape may spell half of a surrogate pair, and only two halves in order make
a character, so the second pass can fail where the first one does not.
-/

namespace DeviceQuery.Json

/-- A piece of a string's body. -/
inductive Piece where
  | char (c : Char)
  /-- Half of a surrogate pair. -/
  | half (unit : Nat)
deriving DecidableEq

/-- The piece of a code unit. -/
def Piece.ofUnit (unit : Nat) : Piece :=
  if 0xD800 ≤ unit ∧ unit ≤ 0xDFFF then half unit else char (Char.ofNat unit)

/-- The character that a letter stands for after a backslash. -/
def letterEscape? : Char → Option Char
  | '"' => some '"'
  | '\\' => some '\\'
  | '/' => some '/'
  | 'b' => some '\x08'
  | 'f' => some '\x0c'
  | 'n' => some '\n'
  | 'r' => some '\r'
  | 't' => some '\t'
  | _ => none

/-- The pieces up to the closing quote, and what follows it. -/
def pieces? : List Char → Option (List Piece × List Char)
  | [] => none
  | '"' :: rest => some ([], rest)
  | '\\' :: 'u' :: a :: b :: c :: d :: rest => do
    let unit ← Digits.readHex? [a, b, c, d]
    let (pieces, after) ← pieces? rest
    some (Piece.ofUnit unit :: pieces, after)
  | '\\' :: e :: rest => do
    let c ← letterEscape? e
    let (pieces, after) ← pieces? rest
    some (.char c :: pieces, after)
  | c :: rest =>
    if c = '\\' ∨ c.toNat < 0x20 then none
    else do
      let (pieces, after) ← pieces? rest
      some (.char c :: pieces, after)

/-- The character of a surrogate pair. -/
def pairChar (high low : Nat) : Char :=
  Char.ofNat (0x10000 + (high - 0xD800) * 0x400 + (low - 0xDC00))

/-- The text of the pieces; halves count only in pairs, the high one first. -/
def joined? : List Piece → Option (List Char)
  | [] => some []
  | .char c :: rest => (joined? rest).map (c :: ·)
  | .half high :: .half low :: rest =>
    if high < 0xDC00 ∧ 0xDC00 ≤ low then (joined? rest).map (pairChar high low :: ·) else none
  | .half _ :: _ => none

end DeviceQuery.Json
