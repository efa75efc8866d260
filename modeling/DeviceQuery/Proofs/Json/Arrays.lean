import DeviceQuery.Proofs.Json.RoundTrip
import DeviceQuery.Proofs.Text.Lines

/-!
# Written arrays read back

An array of strings is read back item by item, each up to the comma or the bracket behind it
(`parse?_writtenArray`). It stands on one line, as the line ends inside its strings are escaped
(`unbroken_writtenArray`).
-/

namespace DeviceQuery.Json

variable {c : Char} {fuel : Nat} {rest : List Char}

/-- The array of these texts. -/
def ofTexts (texts : List String) : Json := .array (texts.map fun t => .string (some t))

theorem strings?_ofTexts (texts : List String) : (ofTexts texts).strings? = some texts := by
  induction texts with
  | nil => rfl
  | cons t texts ih =>
    simp only [ofTexts, strings?, List.map_cons, List.mapM_cons] at ih ⊢
    rw [ih]
    rfl

/-! ## Items -/

/-- The characters of the items, up to the closing bracket. -/
def writtenItems (texts : List String) : List Char :=
  [','].intercalate (texts.map fun t => writtenChars t.toList)

theorem writtenItems_singleton (t : String) : writtenItems [t] = writtenChars t.toList := by
  simp [writtenItems]

theorem writtenItems_cons_cons (first second : String) (texts : List String) :
    writtenItems (first :: second :: texts) =
      writtenChars first.toList ++ ',' :: writtenItems (second :: texts) := by
  simp [writtenItems, List.intercalate_cons_cons]

theorem toList_writtenArray (texts : List String) :
    (writtenArray texts).toList = '[' :: writtenItems texts ++ [']'] := by
  simp [writtenArray, String.toList_intercalate, written, Function.comp_def, writtenItems]

theorem one_lt_length_writtenChars (cs : List Char) : 1 < (writtenChars cs).length := by
  simp [writtenChars]

/-- An item is read, and what follows it decides how it goes on. -/
theorem items?_writtenChars (fuel : Nat) (t : String) (rest : List Char) :
    items? (fuel + 2) (writtenChars t.toList ++ rest) =
      match skipBlanks rest with
      | ',' :: more => do
        let (items, after) ← items? (fuel + 1) more
        some (.string (some t) :: items, after)
      | ']' :: after => some ([.string (some t)], after)
      | _ => none := by
  rw [items?]
  change (value? (fuel + 1) (writtenChars t.toList ++ rest)).bind _ = _
  rw [value?_written]
  rfl

/-- The items are read up to the closing bracket; every call takes a character at least. -/
theorem items?_writtenItems (first : String) (texts : List String)
    (enough : (writtenItems (first :: texts)).length < fuel) (rest : List Char) :
    items? fuel (writtenItems (first :: texts) ++ ']' :: rest) =
      some ((first :: texts).map fun t => .string (some t), rest) := by
  have length := one_lt_length_writtenChars first.toList
  induction texts generalizing first fuel with
  | nil =>
    rw [writtenItems_singleton] at enough ⊢
    obtain ⟨fuel, rfl⟩ : ∃ f, fuel = f + 2 := ⟨fuel - 2, by omega⟩
    rw [items?_writtenChars, skipBlanks_cons rfl]
    rfl
  | cons second texts ih =>
    rw [writtenItems_cons_cons, List.length_append, List.length_cons] at enough
    obtain ⟨fuel, rfl⟩ : ∃ f, fuel = f + 2 := ⟨fuel - 2, by omega⟩
    have less : (writtenItems (second :: texts)).length < fuel + 1 := by omega
    have read := ih second less (one_lt_length_writtenChars second.toList)
    rw [writtenItems_cons_cons, List.append_assoc, List.cons_append, items?_writtenChars,
      skipBlanks_cons rfl]
    simp only [read]
    rfl

/-! ## Arrays -/

theorem value?_writtenItems (texts : List String)
    (enough : (writtenItems texts).length < fuel) (rest : List Char) :
    value? (fuel + 1) ('[' :: writtenItems texts ++ ']' :: rest) = some (ofTexts texts, rest) := by
  rw [value?, List.cons_append, skipBlanks_cons rfl]
  cases texts with
  | nil => rfl
  | cons first texts =>
    obtain ⟨more, start⟩ : ∃ more, writtenItems (first :: texts) ++ ']' :: rest = '"' :: more := by
      cases texts <;> simp [writtenItems, writtenChars]
    have read := items?_writtenItems first texts enough rest
    rw [start] at read
    simp only [start, skipBlanks_cons (show isBlank '"' = false from rfl)]
    change (items? fuel ('"' :: more)).map _ = _
    rw [read]
    rfl

/-- An array is read back as it was written, with nothing but blanks behind it. -/
theorem parse?_writtenArray (texts : List String) {behind : String}
    (blank : skipBlanks behind.toList = []) :
    parse? (writtenArray texts ++ behind) = some (ofTexts texts) := by
  have read (fuel : Nat) (enough : (writtenItems texts).length < fuel) :=
    value?_writtenItems texts enough behind.toList
  have chars : (writtenArray texts ++ behind).toList =
      '[' :: writtenItems texts ++ ']' :: behind.toList := by
    simp [toList_writtenArray]
  rw [parse?, chars, read _ (by simp; omega)]
  simp [blank]

/-! ## Line ends -/

theorem hexDigit_ne_lineEnd (n : Nat) : hexDigit n ≠ '\n' ∧ hexDigit n ≠ '\r' := by
  simp [hexDigit]

theorem unbroken_writtenChar (c : Char) : Text.Unbroken (writtenChar c) := by
  unfold writtenChar
  split_ifs with _ _ _ _ feed ret
  any_goals decide
  · simp [Text.unbroken_cons_iff, hexDigit_ne_lineEnd, Text.unbroken_nil]
  · exact Text.unbroken_cons_iff.mpr ⟨⟨feed, ret⟩, Text.unbroken_nil⟩

theorem unbroken_writtenChars (cs : List Char) : Text.Unbroken (writtenChars cs) := by
  rw [writtenChars, Text.unbroken_append_iff, Text.unbroken_cons_iff]
  exact ⟨⟨by decide, Text.unbroken_flatMap fun c _ => unbroken_writtenChar c⟩, by decide⟩

theorem unbroken_writtenItems (texts : List String) : Text.Unbroken (writtenItems texts) := by
  cases texts with
  | nil => exact Text.unbroken_nil
  | cons first texts =>
    induction texts generalizing first with
    | nil =>
      rw [writtenItems_singleton]
      exact unbroken_writtenChars first.toList
    | cons second texts ih =>
      rw [writtenItems_cons_cons, Text.unbroken_append_iff, Text.unbroken_cons_iff]
      exact ⟨unbroken_writtenChars first.toList, by decide, ih second⟩

/-- An array stands on one line. -/
theorem unbroken_writtenArray (texts : List String) :
    Text.Unbroken (writtenArray texts).toList := by
  rw [toList_writtenArray, Text.unbroken_append_iff, Text.unbroken_cons_iff]
  exact ⟨⟨by decide, unbroken_writtenItems texts⟩, by decide⟩

end DeviceQuery.Json
