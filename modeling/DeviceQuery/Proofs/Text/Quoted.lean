import DeviceQuery.Number.Digits
import DeviceQuery.Proofs.Text.Lines
import DeviceQuery.Text.Quoted
import Mathlib.Data.List.Induction
import Mathlib.Tactic.SplitIfs

/-!
# Quoted texts tell what they quote

What is written for a character tells the character whatever follows it, since a reader that takes
one character at a time gives it back (`unquotedChar?_quotedChar`). Such a code stays readable if
its members are put one after another up to a mark that starts none of them (`PrefixFree.listed`).
That goes for the characters of a text up to the closing quote, and again for the members of a list
up to the closing bracket (`quotedList_inj`).
-/

namespace DeviceQuery

namespace Digits

theorem hexValue?_digitChar {n : Nat} (small : n < 16) : hexValue? (Nat.digitChar n) = some n := by
  revert n
  decide

/-- The number of a text with one more digit. -/
theorem readHex?_append_singleton (cs : List Char) (c : Char) :
    readHex? (cs ++ [c]) =
      (readHex? cs).bind fun n => (hexValue? c).map (16 * n + ·) := by
  simp [readHex?, List.foldlM_append]

theorem readHex?_toDigits (n : Nat) : readHex? (Nat.toDigits 16 n) = some n := by
  induction n using Nat.strongRecOn with
  | ind n ih =>
    by_cases small : n < 16
    · rw [Nat.toDigits_of_lt_base small]
      simp [readHex?, hexValue?_digitChar small]
    · have digits := @Nat.toDigits_of_base_le 16 n (by decide) (by omega)
      rw [digits, readHex?_append_singleton, ih (n / 16) (by omega),
        hexValue?_digitChar (Nat.mod_lt n (by decide))]
      simp
      omega

/-- A text that has a number holds nothing but digits. -/
theorem hexValue?_ne_none_of_mem {cs : List Char} {n : Nat} (read : readHex? cs = some n) {c : Char}
    (member : c ∈ cs) : hexValue? c ≠ none := by
  induction cs using List.reverseRecOn generalizing n with
  | nil => cases member
  | append_singleton cs last ih =>
    rw [readHex?_append_singleton] at read
    obtain ⟨front, readFront, value⟩ := Option.bind_eq_some_iff.mp read
    obtain ⟨digit, digitValue, -⟩ := Option.map_eq_some_iff.mp value
    rcases List.mem_append.mp member with earlier | isLast
    · exact ih readFront earlier
    · rw [List.mem_singleton.mp isLast, digitValue]
      exact Option.some_ne_none digit

end Digits

namespace Text

/-! ## Codes -/

/-- A code tells what it stands for whatever follows it, and where it ends. -/
def PrefixFree {α : Type} (code : α → List Char) : Prop :=
  ∀ ⦃a b : α⦄ ⦃xs ys : List Char⦄, code a ++ xs = code b ++ ys → a = b ∧ xs = ys

/-- What is written for some values, one after another up to a mark. -/
def listed {α : Type} (code : α → List Char) (mark : Char) (values : List α) : List Char :=
  values.flatMap code ++ [mark]

/-- Values can be told apart up to a mark that starts the code of none of them. -/
theorem PrefixFree.listed {α : Type} {code : α → List Char} (free : PrefixFree code) {mark : Char}
    (unmarked : ∀ a xs ys, code a ++ xs ≠ mark :: ys) : PrefixFree (listed code mark) := by
  intro values others xs ys same
  simp only [Text.listed, List.append_assoc, List.singleton_append] at same
  induction values generalizing others with
  | nil =>
    cases others with
    | nil => exact ⟨rfl, (List.cons.inj same).2⟩
    | cons b others =>
      rw [List.flatMap_cons, List.append_assoc] at same
      exact absurd same.symm (unmarked b _ _)
  | cons a values ih =>
    cases others with
    | nil =>
      rw [List.flatMap_cons, List.append_assoc] at same
      exact absurd same (unmarked a _ _)
    | cons b others =>
      rw [List.flatMap_cons, List.flatMap_cons, List.append_assoc, List.append_assoc] at same
      obtain ⟨rfl, rest⟩ := free same
      obtain ⟨rfl, after⟩ := ih rest
      exact ⟨rfl, after⟩

/-! ## One character -/

/-- The character that a letter stands for after a backslash. -/
def letterOf? : Char → Option Char
  | '0' => some '\x00'
  | 't' => some '\t'
  | 'r' => some '\r'
  | 'n' => some '\n'
  | '\\' => some '\\'
  | '"' => some '"'
  | _ => none

/-- Takes one character of a quoted text, with what follows it. -/
def unquotedChar? : List Char → Option (Char × List Char)
  | '\\' :: 'u' :: '\x7b' :: rest =>
    (cutChars '\x7d' rest).bind fun (digits, after) =>
      (Digits.readHex? digits).map fun n => (Char.ofNat n, after)
  | '\\' :: e :: rest => (letterOf? e).map (·, rest)
  | '"' :: _ => none
  | c :: rest => some (c, rest)
  | [] => none

/-- A character is written with a letter, by its code point, or as it is. -/
theorem quotedChar_cases (c : Char) :
    (∃ e, letterOf? e = some c ∧ quotedChar c = ['\\', e]) ∨ quotedChar c = codePointEscape c ∨
    quotedChar c = [c] ∧ (c ≠ '\\' ∧ c ≠ '"') ∧ c ≠ '\n' ∧ c ≠ '\r' := by
  unfold quotedChar
  split_ifs with _ _ ret feed slash quote
  any_goals
    subst c
    exact .inl ⟨_, rfl, rfl⟩
  · exact .inr (.inl rfl)
  · exact .inr (.inr ⟨rfl, ⟨slash, quote⟩, feed, ret⟩)

variable {c : Char} {rest : List Char}

theorem unquotedChar?_codePointEscape (c : Char) (rest : List Char) :
    unquotedChar? (codePointEscape c ++ rest) = some (c, rest) := by
  have read := Digits.readHex?_toDigits c.toNat
  have unclosed : '\x7d' ∉ Nat.toDigits 16 c.toNat :=
    fun member => Digits.hexValue?_ne_none_of_mem read member rfl
  have digits : cutChars '\x7d' (Nat.toDigits 16 c.toNat ++ '\x7d' :: rest) =
      some (Nat.toDigits 16 c.toNat, rest) := cutChars_eq_some_iff.mpr ⟨rfl, unclosed⟩
  simp [codePointEscape, unquotedChar?, digits, read]

theorem unquotedChar?_letter {e : Char} (letter : letterOf? e = some c) :
    unquotedChar? ('\\' :: e :: rest) = some (c, rest) := by
  have noCode : e ≠ 'u' := by
    rintro rfl
    simp [letterOf?] at letter
  simp [unquotedChar?, noCode, letter]

theorem unquotedChar?_plain (noSlash : c ≠ '\\') (noQuote : c ≠ '"') :
    unquotedChar? (c :: rest) = some (c, rest) := by
  simp [unquotedChar?, noSlash]

/-- A character is taken as it was written. -/
theorem unquotedChar?_quotedChar (c : Char) (rest : List Char) :
    unquotedChar? (quotedChar c ++ rest) = some (c, rest) := by
  rcases quotedChar_cases c with ⟨e, letter, written⟩ | written | ⟨written, ⟨slash, quote⟩, -⟩
  · rw [written]
    exact unquotedChar?_letter letter
  · rw [written]
    exact unquotedChar?_codePointEscape c rest
  · rw [written]
    exact unquotedChar?_plain slash quote

theorem prefixFree_quotedChar : PrefixFree quotedChar := by
  intro c d xs ys same
  have taken : some (c, xs) = some (d, ys) := by
    rw [← unquotedChar?_quotedChar c xs, same, unquotedChar?_quotedChar]
  simpa using taken

/-- A quote ends a quoted text. -/
theorem quotedChar_append_ne (c : Char) (xs ys : List Char) : quotedChar c ++ xs ≠ '"' :: ys := by
  intro same
  have taken := unquotedChar?_quotedChar c xs
  rw [same] at taken
  cases taken

/-! ## Texts and lists of texts -/

theorem toList_quoted (s : String) :
    (quoted s).toList = '"' :: listed quotedChar '"' s.toList := by
  simp [quoted, listed]

theorem prefixFree_quoted : PrefixFree fun s => (quoted s).toList := by
  intro s t xs ys same
  simp only [toList_quoted, List.cons_append, List.cons.injEq, true_and] at same
  obtain ⟨chars, after⟩ := prefixFree_quotedChar.listed quotedChar_append_ne same
  exact ⟨String.toList_inj.mp chars, after⟩

/-- A member of a list that is not the first one. -/
def laterMember (s : String) : List Char := ',' :: ' ' :: (quoted s).toList

/-- A bracket ends a list of quoted texts. -/
theorem laterMember_append_ne (s : String) (xs ys : List Char) :
    laterMember s ++ xs ≠ ']' :: ys := by
  intro same
  cases same

theorem prefixFree_laterMember : PrefixFree laterMember := by
  intro s t xs ys same
  simp only [laterMember, List.cons_append, List.cons.injEq, true_and] at same
  exact prefixFree_quoted same

theorem toList_quotedList_nil : (quotedList []).toList = ['[', ']'] := by
  rfl

theorem intercalate_cons (first : List Char) (more : List (List Char)) :
    [',', ' '].intercalate (first :: more) =
      first ++ more.flatMap (',' :: ' ' :: ·) := by
  induction more generalizing first with
  | nil => simp
  | cons second more ih =>
    rw [List.intercalate_cons_cons, ih]
    simp

theorem toList_quotedList_cons (s : String) (texts : List String) :
    (quotedList (s :: texts)).toList =
      '[' :: ((quoted s).toList ++ listed laterMember ']' texts) := by
  have later : (texts.map fun t => (quoted t).toList).flatMap (',' :: ' ' :: ·) =
      texts.flatMap laterMember := by
    rw [List.flatMap_map]
    rfl
  have chars : (quotedList (s :: texts)).toList =
      '[' :: ([',', ' '].intercalate ((s :: texts).map fun t => (quoted t).toList) ++ [']']) := by
    simp [quotedList, bracketed, String.toList_intercalate, Function.comp_def]
  rw [chars, List.map_cons, intercalate_cons, later, listed, List.append_assoc]

theorem head?_quotedList (texts : List String) : (quotedList texts).toList.head? = some '[' := by
  simp [quotedList, bracketed]

/-- A list of quoted texts tells its members. -/
theorem quotedList_inj {texts others : List String} :
    quotedList texts = quotedList others ↔ texts = others := by
  refine ⟨fun same => ?_, congrArg quotedList⟩
  have chars := congrArg String.toList same
  cases texts with
  | nil =>
    cases others with
    | nil => rfl
    | cons t others =>
      rw [toList_quotedList_nil, toList_quotedList_cons, toList_quoted] at chars
      cases chars
  | cons s texts =>
    cases others with
    | nil =>
      rw [toList_quotedList_nil, toList_quotedList_cons, toList_quoted] at chars
      cases chars
    | cons t others =>
      rw [toList_quotedList_cons, toList_quotedList_cons, List.cons.injEq] at chars
      obtain ⟨rfl, later⟩ := prefixFree_quoted chars.2
      have ends : listed laterMember ']' texts ++ [] = listed laterMember ']' others ++ [] := by
        rw [later]
      obtain ⟨rfl, -⟩ := prefixFree_laterMember.listed laterMember_append_ne ends
      rfl

/-! ## Line ends -/

theorem unbroken_codePointEscape (c : Char) : Unbroken (codePointEscape c) := by
  have read := Digits.readHex?_toDigits c.toNat
  have digits : Unbroken (Nat.toDigits 16 c.toNat) := by
    intro d member
    have digit := Digits.hexValue?_ne_none_of_mem read member
    constructor <;>
    · rintro rfl
      exact digit rfl
  rw [codePointEscape, unbroken_append_iff, unbroken_append_iff]
  exact ⟨⟨by decide, digits⟩, by decide⟩

/-- Characters that end a line are escaped. -/
theorem unbroken_quotedChar (c : Char) : Unbroken (quotedChar c) := by
  rcases quotedChar_cases c with ⟨e, letter, written⟩ | written | ⟨written, -, feed, ret⟩
  · rw [written]
    have noEnd : e ≠ '\n' ∧ e ≠ '\r' := by
      constructor <;>
      · rintro rfl
        cases letter
    simp [unbroken_cons_iff, noEnd, unbroken_nil]
  · rw [written]
    exact unbroken_codePointEscape c
  · rw [written]
    exact unbroken_cons_iff.mpr ⟨⟨feed, ret⟩, unbroken_nil⟩

theorem unbroken_quoted (s : String) : Unbroken (quoted s).toList := by
  rw [toList_quoted, unbroken_cons_iff, listed, unbroken_append_iff]
  exact ⟨by decide, unbroken_flatMap fun c _ => unbroken_quotedChar c, by decide⟩

/-- A list of quoted texts stands on one line. -/
theorem unbroken_quotedList (texts : List String) : Unbroken (quotedList texts).toList := by
  cases texts with
  | nil => decide
  | cons s texts =>
    rw [toList_quotedList_cons, unbroken_cons_iff, unbroken_append_iff, listed,
      unbroken_append_iff]
    have later : Unbroken (texts.flatMap laterMember) := unbroken_flatMap fun t _ => by
      simp [laterMember, unbroken_cons_iff, unbroken_quoted]
    exact ⟨by decide, unbroken_quoted s, later, by decide⟩

end Text

end DeviceQuery
