import DeviceQuery.Json.Reader
import DeviceQuery.Json.Writer
import Mathlib.Tactic.SplitIfs

/-!
# Written strings read back

Every character is read back from what is written for it, be it a short escape, an escape by its
number or the character itself (`pieces?_writtenChar`). None of these escapes is half of a
surrogate pair, so the string read has a text, and it is the one written (`string?_writtenChars`).
-/

namespace DeviceQuery.Json

variable {c : Char} {rest after : List Char} {pieces : List Piece}

/-! ## One character -/

/-- The two digits after the zeros spell a control's number. -/
theorem readHex?_control {n : Nat} (low : n < 0x20) :
    Digits.readHex? ['0', '0', hexDigit (n / 16), hexDigit n] = some n := by
  revert n
  decide

theorem pieces?_numbered {n : Nat} (low : n < 0x20) (read : pieces? rest = some (pieces, after)) :
    pieces? ('\\' :: 'u' :: '0' :: '0' :: hexDigit (n / 16) :: hexDigit n :: rest) =
      some (.char (Char.ofNat n) :: pieces, after) := by
  have whole : Piece.ofUnit n = .char (Char.ofNat n) := if_neg (by omega)
  simp [pieces?, readHex?_control low, read, whole]

theorem pieces?_letter {e : Char} (letter : letterEscape? e = some c)
    (read : pieces? rest = some (pieces, after)) :
    pieces? ('\\' :: e :: rest) = some (.char c :: pieces, after) := by
  have notNumbered : e ≠ 'u' := by
    rintro rfl
    simp [letterEscape?] at letter
  simp [pieces?, notNumbered, letter, read]

theorem pieces?_plain (noQuote : c ≠ '"') (noSlash : c ≠ '\\') (high : ¬c.toNat < 0x20)
    (read : pieces? rest = some (pieces, after)) :
    pieces? (c :: rest) = some (.char c :: pieces, after) := by
  simp [pieces?, noSlash, high, read]

/-- A character is read back as it was written. -/
theorem pieces?_writtenChar (c : Char) (read : pieces? rest = some (pieces, after)) :
    pieces? (writtenChar c ++ rest) = some (.char c :: pieces, after) := by
  unfold writtenChar
  split_ifs with quote slash _ _ _ _ _ low
  any_goals
    subst c
    exact pieces?_letter rfl read
  · simpa using pieces?_numbered low read
  · exact pieces?_plain quote slash low read

/-! ## A string -/

theorem pieces?_flatMap_writtenChar (cs rest : List Char) :
    pieces? (cs.flatMap writtenChar ++ '"' :: rest) = some (cs.map .char, rest) := by
  induction cs with
  | nil => rfl
  | cons c cs ih =>
    rw [List.flatMap_cons, List.append_assoc, List.map_cons]
    exact pieces?_writtenChar c ih

@[simp] theorem joined?_map_char (cs : List Char) : joined? (cs.map .char) = some cs := by
  induction cs with
  | nil => rfl
  | cons c cs ih => rw [List.map_cons, joined?, ih, Option.map_some]

/-- A written string is read back, and nothing of what follows it is taken. -/
theorem string?_written (s : String) (rest : List Char) :
    string? (s.toList.flatMap writtenChar ++ '"' :: rest) = some (some s, rest) := by
  simp [string?, pieces?_flatMap_writtenChar]

/-! ## An object of strings -/

/-- The object with these members, all of them strings. -/
def ofEntries (entries : List (String × String)) : Json :=
  .object (entries.map fun (k, v) => (some k, .string (some v)))

theorem entries?_ofEntries (entries : List (String × String)) :
    (ofEntries entries).entries? = some entries := by
  induction entries with
  | nil => rfl
  | cons e entries ih =>
    simp only [ofEntries, entries?, List.map_cons, List.mapM_cons] at ih ⊢
    rw [ih]
    rfl

/-- The characters of one member. -/
def writtenEntry (e : String × String) : List Char :=
  writtenChars e.1.toList ++ ':' :: writtenChars e.2.toList

theorem two_lt_length_writtenEntry (e : String × String) : 2 < (writtenEntry e).length := by
  simp only [writtenEntry, writtenChars, List.length_append, List.length_cons]
  omega

/-- The characters of the members, up to the closing brace. -/
def writtenEntries (entries : List (String × String)) : List Char :=
  [','].intercalate (entries.map writtenEntry)

theorem toList_writtenObject (entries : List (String × String)) :
    (writtenObject entries).toList = '\x7b' :: writtenEntries entries ++ ['\x7d'] := by
  have members : entries.map (fun e => writtenChars e.1.toList ++ ':' :: writtenChars e.2.toList) =
      entries.map writtenEntry := rfl
  simp [writtenObject, String.toList_intercalate, written, Function.comp_def, members,
    writtenEntries]

/-- Nothing but a blank is skipped. -/
theorem skipBlanks_cons (solid : isBlank c = false) : skipBlanks (c :: rest) = c :: rest := by
  simp [skipBlanks, solid]

theorem value?_written (fuel : Nat) (s : String) (rest : List Char) :
    value? (fuel + 1) (writtenChars s.toList ++ rest) = some (.string (some s), rest) := by
  have start : writtenChars s.toList ++ rest =
      '"' :: (s.toList.flatMap writtenChar ++ '"' :: rest) := by simp [writtenChars]
  rw [start, value?, skipBlanks_cons rfl]
  simp only [string?_written, Option.map_some]

/-- A member is read, and what follows it decides how it goes on. -/
theorem members?_writtenEntry (fuel : Nat) (k v : String) (rest : List Char) :
    members? (fuel + 2) (writtenEntry (k, v) ++ rest) =
      match skipBlanks rest with
      | ',' :: more => do
        let (members, after) ← members? (fuel + 1) more
        some ((some k, .string (some v)) :: members, after)
      | '\x7d' :: after => some ([(some k, .string (some v))], after)
      | _ => none := by
  have start : writtenEntry (k, v) ++ rest = '"' :: (k.toList.flatMap writtenChar ++
      '"' :: ':' :: (writtenChars v.toList ++ rest)) := by
    simp [writtenEntry, writtenChars]
  rw [start, members?, skipBlanks_cons rfl]
  simp only [string?_written, Option.bind_eq_bind, Option.bind_some]
  rw [skipBlanks_cons rfl]
  change (value? (fuel + 1) (writtenChars v.toList ++ rest)).bind _ = _
  rw [value?_written]
  rfl

/-- The members are read up to the closing brace; every call takes a character at least. -/
theorem members?_writtenEntries (first : String × String) (entries : List (String × String))
    {fuel : Nat} (enough : (writtenEntries (first :: entries)).length < fuel) (rest : List Char) :
    members? fuel (writtenEntries (first :: entries) ++ '\x7d' :: rest) =
      some ((first :: entries).map fun (k, v) => (some k, .string (some v)), rest) := by
  have length := two_lt_length_writtenEntry first
  induction entries generalizing first fuel with
  | nil =>
    have only : writtenEntries [first] = writtenEntry first := by simp [writtenEntries]
    rw [only] at enough ⊢
    obtain ⟨fuel, rfl⟩ : ∃ f, fuel = f + 2 := ⟨fuel - 2, by omega⟩
    rw [members?_writtenEntry, skipBlanks_cons rfl]
    rfl
  | cons second entries ih =>
    have parts : writtenEntries (first :: second :: entries) =
        writtenEntry first ++ ',' :: writtenEntries (second :: entries) := by
      simp [writtenEntries, List.intercalate_cons_cons]
    rw [parts, List.length_append, List.length_cons] at enough
    obtain ⟨fuel, rfl⟩ : ∃ f, fuel = f + 2 := ⟨fuel - 2, by omega⟩
    have less : (writtenEntries (second :: entries)).length < fuel + 1 := by omega
    have read := ih second less (two_lt_length_writtenEntry second)
    rw [parts, List.append_assoc, List.cons_append, members?_writtenEntry, skipBlanks_cons rfl]
    simp only [read]
    rfl

theorem value?_writtenEntries (entries : List (String × String)) {fuel : Nat}
    (enough : (writtenEntries entries).length < fuel) (rest : List Char) :
    value? (fuel + 1) ('\x7b' :: writtenEntries entries ++ '\x7d' :: rest) =
      some (ofEntries entries, rest) := by
  rw [value?, List.cons_append, skipBlanks_cons rfl]
  cases entries with
  | nil => rfl
  | cons first entries =>
    obtain ⟨more, start⟩ : ∃ more,
        writtenEntries (first :: entries) ++ '\x7d' :: rest = '"' :: more := by
      cases entries <;> simp [writtenEntries, writtenEntry, writtenChars]
    have read := members?_writtenEntries first entries enough rest
    rw [start] at read
    simp only [start, skipBlanks_cons (show isBlank '"' = false from rfl)]
    change (members? fuel ('"' :: more)).map _ = _
    rw [read]
    rfl

/-- An object is read back as it was written, its members in their order. -/
theorem parse?_writtenObject (entries : List (String × String)) :
    parse? (writtenObject entries) = some (ofEntries entries) := by
  have read (fuel : Nat) (enough : (writtenEntries entries).length < fuel) :=
    value?_writtenEntries entries enough []
  rw [parse?, toList_writtenObject, read _ (by simp; omega)]
  rfl

end DeviceQuery.Json
