import DeviceQuery.Text.Blank
import Mathlib.Data.List.Forall2
import Mathlib.Data.List.TakeWhile

/-!
# Words in any case, with blanks around them

A text is lowered to a word exactly if it is the word with some of its letters as capitals
(`toLower_eq_iff_inAnyCase`), and trimmed to one exactly if it is the word with blanks before and
behind it (`trim_eq_iff`).
-/

namespace DeviceQuery.Text

/-! ## Case -/

/-- The first character is the second one or its capital. Only letters of ASCII have capitals. -/
def Cased (c d : Char) : Prop := c = d ∨ c.isUpper ∧ d.toNat = c.toNat + 32

/-- The text is the word, with none, some or all of its letters as capitals. -/
def InAnyCase (word text : String) : Prop := List.Forall₂ Cased text.toList word.toList

variable {c d : Char}

/-- A capital is one of the letters from A to Z. -/
theorem bounds_of_isUpper (upper : c.isUpper) : 65 ≤ c.toNat ∧ c.toNat ≤ 90 :=
  of_decide_eq_true upper

theorem toNat_toLower_of_isUpper (upper : c.isUpper) : c.toLower.toNat = c.toNat + 32 := by
  have bound := (bounds_of_isUpper upper).2
  have lowered : c.toLower = ⟨c.val + 32, _⟩ := dif_pos (of_decide_eq_true upper)
  rw [lowered]
  change (c.val + 32).toNat = c.toNat + 32
  rw [UInt32.toNat_add]
  exact Nat.mod_eq_of_lt (by change c.toNat + 32 < 2 ^ 32; omega)

theorem toLower_of_not_isUpper (other : c.isUpper = false) : c.toLower = c :=
  dif_neg (of_decide_eq_false other)

theorem toLower_eq_iff (small : d.isUpper = false) : c.toLower = d ↔ Cased c d := by
  cases upper : c.isUpper with
  | true =>
    have code := toNat_toLower_of_isUpper upper
    have apart : c ≠ d := by
      rintro rfl
      exact Bool.false_ne_true (small.symm.trans upper)
    simp [Cased, apart, upper, ← code, ← Char.toNat_inj, eq_comm]
  | false => simp [Cased, toLower_of_not_isUpper upper, upper]

theorem map_toLower_eq_iff {word cs : List Char} (small : ∀ d ∈ word, d.isUpper = false) :
    cs.map Char.toLower = word ↔ List.Forall₂ Cased cs word := by
  induction word generalizing cs with
  | nil => simp
  | cons d word ih =>
    obtain ⟨first, later⟩ := List.forall_mem_cons.mp small
    simp only [List.map_eq_cons_iff, List.forall₂_cons_right_iff, toLower_eq_iff first, ih later]
    constructor
    · rintro ⟨c, cs, rfl, head, tail⟩
      exact ⟨c, cs, head, tail, rfl⟩
    · rintro ⟨c, cs, head, tail, rfl⟩
      exact ⟨c, cs, rfl, head, tail⟩

theorem toLower_eq_iff_inAnyCase {word text : String}
    (small : ∀ d ∈ word.toList, d.isUpper = false) :
    text.toLower = word ↔ InAnyCase word text := by
  have chars : text.toLower.toList = text.toList.map Char.toLower := String.toList_map
  rw [← String.toList_inj, chars, map_toLower_eq_iff small, InAnyCase]

/-! ## Blanks -/

/-- The text is the core with blanks before and behind it, or one of them, or none. -/
def Padded (core text : String) : Prop :=
  ∃ before after : List Char, text.toList = before ++ core.toList ++ after ∧
    (∀ c ∈ before, isBlank c) ∧ ∀ c ∈ after, isBlank c

theorem dropWhile_isBlank_of_solid {cs : List Char} (solid : ∀ c ∈ cs, isBlank c = false) :
    cs.dropWhile isBlank = cs := by
  cases cs with
  | nil => rfl
  | cons c cs => rw [List.dropWhile_cons_of_neg (by simp [solid c])]

/-- What is left of a text is what stands between its outer blanks. -/
theorem padded_trim (text : String) : Padded (trim text) text := by
  let kept := text.toList.dropWhile isBlank
  refine ⟨text.toList.takeWhile isBlank, (kept.reverse.takeWhile isBlank).reverse, ?_, ?_, ?_⟩
  · have back : trimChars text.toList ++ (kept.reverse.takeWhile isBlank).reverse = kept := by
      rw [trimChars, ← List.reverse_append, List.takeWhile_append_dropWhile, List.reverse_reverse]
    rw [trim, String.toList_ofList, List.append_assoc, back, List.takeWhile_append_dropWhile]
  · exact fun c member => List.mem_takeWhile_imp member
  · exact fun c member => List.mem_takeWhile_imp (List.mem_reverse.mp member)

theorem trimChars_padded {before core after : List Char} (front : ∀ c ∈ before, isBlank c)
    (solid : ∀ c ∈ core, isBlank c = false) (back : ∀ c ∈ after, isBlank c) :
    trimChars (before ++ core ++ after) = core := by
  cases core with
  | nil =>
    have blank : ∀ c ∈ before ++ after, isBlank c := List.forall_mem_append.mpr ⟨front, back⟩
    rw [List.append_nil, trimChars, List.dropWhile_eq_nil_iff.mpr blank]
    rfl
  | cons c core =>
    have first : ¬isBlank c := by simp [solid c]
    have behind : ∀ d ∈ after.reverse, isBlank d :=
      fun d member => back d (List.mem_reverse.mp member)
    have inside : ∀ d ∈ (c :: core).reverse, isBlank d = false :=
      fun d member => solid d (List.mem_reverse.mp member)
    rw [trimChars, List.append_assoc, List.dropWhile_append_of_pos front, List.cons_append,
      List.dropWhile_cons_of_neg first, ← List.cons_append, List.reverse_append,
      List.dropWhile_append_of_pos behind, dropWhile_isBlank_of_solid inside, List.reverse_reverse]

/-- A text is trimmed to a core without blanks if it is that core between blanks. -/
theorem trim_eq_iff {core text : String} (solid : ∀ c ∈ core.toList, isBlank c = false) :
    trim text = core ↔ Padded core text := by
  constructor
  · rintro rfl
    exact padded_trim text
  · rintro ⟨before, after, chars, front, back⟩
    rw [trim, chars, trimChars_padded front solid back, String.ofList_toList]

/-! ## Both -/

theorem isBlank_of_isUpper (upper : c.isUpper) : isBlank c = false := by
  obtain ⟨low, high⟩ := bounds_of_isUpper upper
  simp only [isBlank, within, blankRanges, List.any_cons, List.any_nil]
  simp
  omega

/-- A word without blanks holds none in any case. -/
theorem solid_of_cased {cs word : List Char} (cased : List.Forall₂ Cased cs word)
    (solid : ∀ d ∈ word, isBlank d = false) : ∀ c ∈ cs, isBlank c = false := by
  induction cased with
  | nil => exact List.forall_mem_nil _
  | cons first _ ih =>
    obtain ⟨solidFirst, solidLater⟩ := List.forall_mem_cons.mp solid
    refine List.forall_mem_cons.mpr ⟨?_, ih solidLater⟩
    rcases first with rfl | ⟨upper, -⟩
    · exact solidFirst
    · exact isBlank_of_isUpper upper

/-! ## Words -/

/-- The text is one of the words, in any case. -/
def OneOf (words : List String) (text : String) : Prop := ∃ word ∈ words, InAnyCase word text

/-- The words are in small letters and hold no blanks. -/
def Plain (words : List String) : Bool :=
  words.all fun word => word.toList.all fun d => !d.isUpper && !isBlank d

theorem chars_of_plain {words : List String} (plain : Plain words) {word : String}
    (member : word ∈ words) :
    (∀ d ∈ word.toList, d.isUpper = false) ∧ ∀ d ∈ word.toList, isBlank d = false := by
  have all := List.all_eq_true.mp plain word member
  simp only [List.all_eq_true, Bool.and_eq_true, Bool.not_eq_true'] at all
  exact ⟨fun d inside => (all d inside).1, fun d inside => (all d inside).2⟩

theorem oneOf_iff {words : List String} (plain : Plain words) {text : String} :
    OneOf words text ↔ text.toLower ∈ words := by
  constructor
  · rintro ⟨word, member, cased⟩
    rwa [(toLower_eq_iff_inAnyCase (chars_of_plain plain member).1).mpr cased]
  · intro member
    exact ⟨text.toLower, member, (toLower_eq_iff_inAnyCase (chars_of_plain plain member).1).mp rfl⟩

/-- A text is trimmed and lowered to one of the words if it is that word in any case between
blanks. -/
theorem exists_padded_oneOf_iff {words : List String} (plain : Plain words) {text : String} :
    (∃ core, Padded core text ∧ OneOf words core) ↔ (trim text).toLower ∈ words := by
  rw [← oneOf_iff plain]
  constructor
  · rintro ⟨core, padded, word, member, cased⟩
    have solid := solid_of_cased cased (chars_of_plain plain member).2
    rw [(trim_eq_iff solid).mpr padded]
    exact ⟨word, member, cased⟩
  · exact fun named => ⟨trim text, padded_trim text, named⟩

end DeviceQuery.Text
