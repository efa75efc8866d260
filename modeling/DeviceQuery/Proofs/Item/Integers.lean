import DeviceQuery.Filter.Criteria
import DeviceQuery.Item.Typed
import Mathlib.Data.List.Induction
import Mathlib.Data.Nat.Digits.Defs

/-!
# Attributes read as integers

A text spells an integer with an optional sign and one or more digits, which count by their places
(`Spells`). Read at a width, it gives that integer if the width holds it, and nothing otherwise, be
it too long or no number at all (`Width.read?_eq_some_iff`). The spelling of an integer spells that
integer (`spells_spelling`), so it is read back at exactly the widths that hold it
(`integers_read_exactly`).
-/

namespace DeviceQuery

namespace Digits

/-- One or more of the digits from `0` to `9`. -/
def IsNumeral (cs : List Char) : Prop := cs ≠ [] ∧ ∀ c ∈ cs, '0' ≤ c ∧ c ≤ '9'

/-- No sign stands in a numeral. -/
theorem IsNumeral.head?_ne {cs : List Char} (numeral : IsNumeral cs) {sign : Char}
    (below : sign < '0') : cs.head? ≠ some sign := fun head =>
  Char.not_lt.mpr (numeral.2 sign (List.mem_of_mem_head? head)).1 below

/-- The number with these digits, of which the last one counts ones, the one before it tens, and so
on. -/
def number (cs : List Char) : Nat :=
  Nat.ofDigits 10 (cs.reverse.map fun c => c.toNat - '0'.toNat)

theorem number_append_singleton (cs : List Char) (c : Char) :
    number (cs ++ [c]) = 10 * number cs + (c.toNat - '0'.toNat) := by
  rw [number, List.reverse_append, List.reverse_singleton, List.singleton_append, List.map_cons,
    Nat.ofDigits_cons, Nat.add_comm]
  rfl

/-- Read from the front, digits have the value of their places. -/
theorem value_eq_number (cs : List Char) : value cs = number cs := by
  induction cs using List.reverseRecOn with
  | nil => rfl
  | append_singleton cs c ih =>
    rw [number_append_singleton, ← ih, value, List.foldl_append]
    rfl

theorem read?_eq_some_iff {cs : List Char} {n : Nat} :
    read? cs = some n ↔ IsNumeral cs ∧ n = number cs := by
  have digits : cs ≠ [] ∧ cs.all Char.isDigit ↔ IsNumeral cs := by
    simp [IsNumeral, Char.isDigit, Char.le_def]
  rw [read?, Option.ite_none_right_eq_some, digits, value_eq_number, Option.some_inj]
  exact and_congr_right fun _ => eq_comm

theorem map_read?_eq_some_iff {sign : Nat → Int} {cs : List Char} {n : Int} :
    (read? cs).map sign = some n ↔ IsNumeral cs ∧ sign (number cs) = n := by
  rw [Option.map_eq_some_iff]
  simp only [read?_eq_some_iff, and_assoc, exists_and_left, exists_eq_left]

theorem isNumeral_toDigits (n : Nat) : IsNumeral (Nat.toDigits 10 n) := by
  refine ⟨Nat.toDigits_ne_nil, fun c member => ?_⟩
  have digit := Nat.isDigit_of_mem_toDigits (by decide) (by decide) member
  simpa [Char.isDigit, Char.le_def] using digit

theorem number_toDigits (n : Nat) : number (Nat.toDigits 10 n) = n := by
  rw [← value_eq_number]
  exact Nat.ofDigitChars_ten_toDigits

end Digits

/-- The texts of an integer: digits without a sign, behind a plus sign, or, where there are negative
numbers, behind a minus sign. -/
inductive Spells (signed : Bool) : List Char → Int → Prop
  | bare {digits : List Char} (numeral : Digits.IsNumeral digits) :
      Spells signed digits (Digits.number digits)
  | plus {digits : List Char} (numeral : Digits.IsNumeral digits) :
      Spells signed ('+' :: digits) (Digits.number digits)
  | minus {digits : List Char} (negative : signed = true) (numeral : Digits.IsNumeral digits) :
      Spells signed ('-' :: digits) (-(Digits.number digits : Int))

/-- The integers of a width: as many below zero as not where it is signed, and else none. -/
def Width.Holds (w : Width) (n : Int) : Prop :=
  if w.signed then -2 ^ (w.bits - 1) ≤ n ∧ n < 2 ^ (w.bits - 1) else 0 ≤ n ∧ n < 2 ^ w.bits

instance (w : Width) (n : Int) : Decidable (w.Holds n) := inferInstanceAs (Decidable (ite _ _ _))

namespace Width

variable {w : Width}

theorem spelled?_plus (digits : List Char) :
    w.spelled? ('+' :: digits) = (Digits.read? digits).map fun n : Nat => (n : Int) := by
  simp only [spelled?]
  cases Digits.read? digits <;> rfl

theorem spelled?_minus (digits : List Char) :
    w.spelled? ('-' :: digits) =
      if w.signed then (Digits.read? digits).map fun n : Nat => -(n : Int) else none := by
  simp only [spelled?]
  cases Digits.read? digits <;> rfl

/-- A text that starts with no sign is read as digits only. -/
theorem spelled?_of_unsigned {text : List Char} (plus : text.head? ≠ some '+')
    (minus : text.head? ≠ some '-') :
    w.spelled? text = (Digits.read? text).map fun n : Nat => (n : Int) := by
  unfold spelled?
  split
  · exact absurd rfl plus
  · exact absurd rfl minus
  · cases Digits.read? text <;> rfl

theorem spelled?_eq_some_iff {text : List Char} {n : Int} :
    w.spelled? text = some n ↔ Spells w.signed text n := by
  constructor
  · intro spelled
    by_cases plus : text.head? = some '+'
    · obtain ⟨digits, rfl⟩ := List.head?_eq_some_iff.mp plus
      rw [spelled?_plus, Digits.map_read?_eq_some_iff] at spelled
      obtain ⟨numeral, rfl⟩ := spelled
      exact .plus numeral
    by_cases minus : text.head? = some '-'
    · obtain ⟨digits, rfl⟩ := List.head?_eq_some_iff.mp minus
      rw [spelled?_minus, Option.ite_none_right_eq_some, Digits.map_read?_eq_some_iff] at spelled
      obtain ⟨negative, numeral, rfl⟩ := spelled
      exact .minus negative numeral
    · rw [spelled?_of_unsigned plus minus, Digits.map_read?_eq_some_iff] at spelled
      obtain ⟨numeral, rfl⟩ := spelled
      exact .bare numeral
  · intro spells
    cases spells with
    | bare numeral =>
      rw [spelled?_of_unsigned (numeral.head?_ne (by decide)) (numeral.head?_ne (by decide))]
      exact Digits.map_read?_eq_some_iff.mpr ⟨numeral, rfl⟩
    | plus numeral =>
      rw [spelled?_plus]
      exact Digits.map_read?_eq_some_iff.mpr ⟨numeral, rfl⟩
    | minus negative numeral =>
      rw [spelled?_minus, if_pos negative]
      exact Digits.map_read?_eq_some_iff.mpr ⟨numeral, rfl⟩

/-- The integers between the least and the greatest one are those that the width holds. -/
theorem within_iff (sized : 0 < w.bits) {n : Int} :
    w.least ≤ n ∧ n ≤ w.greatest ↔ w.Holds n := by
  have double : w.size = 2 * 2 ^ (w.bits - 1) := by
    have power : w.size = 2 ^ w.bits := rfl
    rw [power, ← Nat.pow_succ', Nat.succ_eq_add_one, Nat.sub_add_cancel sized]
  have whole : (2 : Int) ^ w.bits = w.size := by norm_cast
  have half : (2 : Int) ^ (w.bits - 1) = ((2 ^ (w.bits - 1) : Nat) : Int) := by norm_cast
  rw [Holds, greatest, least, whole, half]
  generalize 2 ^ (w.bits - 1) = k at double
  split <;> omega

theorem read?_eq_some_iff (sized : 0 < w.bits) {text : String} {n : Int} :
    w.read? text = some n ↔ Spells w.signed text.toList n ∧ w.Holds n := by
  rw [read?, ← spelled?_eq_some_iff, ← within_iff sized]
  simp only [Option.bind_eq_bind, Option.bind_eq_some_iff, Option.ite_none_right_eq_some,
    Option.some_inj]
  constructor
  · rintro ⟨m, spelled, within, rfl⟩
    exact ⟨spelled, within⟩
  · rintro ⟨spelled, within⟩
    exact ⟨n, spelled, within, rfl⟩

end Width

/-- An integer has the spelling of its digits, behind a minus sign if it is negative. -/
theorem spells_spelling {signed : Bool} {n : Int} (room : n < 0 → signed = true) :
    Spells signed (Value.integer n).spelling.toList n := by
  cases n with
  | ofNat m =>
    have digits : (Value.integer (Int.ofNat m)).spelling.toList = Nat.toDigits 10 m :=
      Nat.toList_repr
    have spells : Spells signed _ _ := .bare (Digits.isNumeral_toDigits m)
    rwa [Digits.number_toDigits, ← digits] at spells
  | negSucc m =>
    have digits : (Value.integer (Int.negSucc m)).spelling.toList =
        '-' :: Nat.toDigits 10 (m + 1) := by
      have opened : (Value.integer (Int.negSucc m)).spelling = "-" ++ (m + 1).repr := rfl
      rw [opened, String.toList_append, Nat.toList_repr]
      rfl
    have spells := Spells.minus (room (Int.negSucc_lt_zero m)) (Digits.isNumeral_toDigits (m + 1))
    rwa [Digits.number_toDigits, ← digits] at spells

theorem Spells.of_signed {signed : Bool} {text : List Char} {n : Int}
    (spells : Spells signed text n) : Spells true text n := by
  cases spells with
  | bare numeral => exact .bare numeral
  | plus numeral => exact .plus numeral
  | minus _ numeral => exact .minus rfl numeral

/-- A text spells one integer at most, whatever the signs that are allowed. -/
theorem Spells.unique {signed other : Bool} {text : List Char} {n m : Int}
    (first : Spells signed text n) (second : Spells other text m) : n = m := by
  let w : Width := ⟨true, 0⟩
  have read : w.spelled? text = some n := Width.spelled?_eq_some_iff.mpr first.of_signed
  rw [Width.spelled?_eq_some_iff.mpr second.of_signed] at read
  exact (Option.some.inj read).symm

namespace Width

variable {w : Width}

/-- Negative integers are held by signed widths only. -/
theorem signed_of_holds {n : Int} (holds : w.Holds n) (negative : n < 0) : w.signed = true := by
  by_contra unsigned
  rw [Holds, if_neg unsigned] at holds
  omega

/-- The spelling of an integer is read back where the width holds the integer, and nowhere else. -/
theorem read?_spelling (sized : 0 < w.bits) {n m : Int} :
    w.read? (Value.integer n).spelling = some m ↔ m = n ∧ w.Holds n := by
  rw [read?_eq_some_iff sized]
  constructor
  · rintro ⟨spells, holds⟩
    have same : m = n := spells.unique (spells_spelling fun _ => rfl : Spells true _ n)
    exact ⟨same, same ▸ holds⟩
  · rintro ⟨rfl, holds⟩
    exact ⟨spells_spelling (signed_of_holds holds), holds⟩

end Width

theorem Item.getAs?_integer {item : Item} {key text : String}
    (stored : item.get? key = some text) (w : Width) :
    item.getAs? (.integer w) key = (w.read? text).map .integer := by
  rw [getAs?, stored]
  rfl

/-- An attribute read at a width gives the integer that its text spells, if the width holds it, and
nothing where the text spells none or one that is too large or too small, however long it is. The
spelling of an integer is read back at exactly the widths that hold it. -/
theorem integers_read_exactly (item : Item) (key text : String)
    (stored : item.get? key = some text) (w : Width) (sized : 0 < w.bits) :
    let reading := item.getAs? (.integer w) key
    (∀ value, reading = some value ↔
      ∃ n, value = .integer n ∧ Spells w.signed text.toList n ∧ w.Holds n) ∧
    (reading = none ↔ ¬∃ n, Spells w.signed text.toList n ∧ w.Holds n) ∧
    ∀ n, text = (Value.integer n).spelling →
      (∀ m, reading = some (.integer m) ↔ m = n ∧ w.Holds n) ∧ (reading = none ↔ ¬w.Holds n) := by
  intro reading
  have seen : reading = (w.read? text).map .integer := Item.getAs?_integer stored w
  have found (m : Int) : reading = some (.integer m) ↔ w.read? text = some m := by
    simp [seen]
  have lost : reading = none ↔ ∀ m, w.read? text ≠ some m := by
    rw [seen, Option.map_eq_none_iff, Option.eq_none_iff_forall_ne_some]
  refine ⟨fun value => ?_, ?_, ?_⟩
  · rw [seen, Option.map_eq_some_iff]
    simp only [Width.read?_eq_some_iff sized]
    constructor
    · rintro ⟨n, spelled, rfl⟩
      exact ⟨n, rfl, spelled⟩
    · rintro ⟨n, rfl, spelled⟩
      exact ⟨n, spelled, rfl⟩
  · rw [lost, not_exists]
    simp only [ne_eq, Width.read?_eq_some_iff sized]
  · rintro n rfl
    refine ⟨fun m => ?_, ?_⟩
    · rw [found, Width.read?_spelling sized]
    · rw [lost]
      simp only [ne_eq, Width.read?_spelling sized, not_and, forall_eq]

/-- The least integer of eight bits is read behind a minus sign and any number of zeros, and read
back from its own spelling. Without the sign there is no room for it, and where there are no
negative numbers there is none either way. -/
theorem integers_read_exactly_bounds :
    let item : Item := ⟨Dict.ofList [("zeros", "-000128"), ("own", "-128"), ("plus", "+128")]⟩
    let small : Width := ⟨true, 8⟩
    let unsigned : Width := ⟨false, 8⟩
    item.getAs? (.integer small) "zeros" = some (.integer (-128)) ∧
      item.getAs? (.integer small) "own" = some (.integer (-128)) ∧
      item.getAs? (.integer small) "plus" = none ∧
      item.getAs? (.integer unsigned) "own" = none := by
  intro item small unsigned
  obtain ⟨zeros, -⟩ := integers_read_exactly item "zeros" "-000128" (by decide) small (by decide)
  obtain ⟨-, -, own⟩ := integers_read_exactly item "own" "-128" (by decide) small (by decide)
  obtain ⟨-, plus, -⟩ := integers_read_exactly item "plus" "+128" (by decide) small (by decide)
  obtain ⟨-, -, back⟩ := integers_read_exactly item "own" "-128" (by decide) unsigned (by decide)
  have padded : Spells true ('-' :: ['0', '0', '0', '1', '2', '8']) (-128) :=
    .minus rfl ⟨by decide, by simp⟩
  have positive : Spells true ('+' :: ['1', '2', '8']) 128 := .plus ⟨by decide, by simp⟩
  refine ⟨(zeros _).mpr ⟨-128, rfl, padded, by decide⟩, ((own (-128) rfl).1 _).mpr ⟨rfl, by decide⟩,
    plus.mpr ?_, (back (-128) rfl).2.mpr (by decide)⟩
  rintro ⟨n, spells, holds⟩
  rw [spells.unique positive] at holds
  exact absurd holds (by decide)

end DeviceQuery
