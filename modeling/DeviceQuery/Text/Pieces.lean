/-!
# Pieces of a text

Cutting a text at a character, and finding or replacing one text inside another.
-/

namespace DeviceQuery.Text

/-- What stands before and after the first `c`, if there is one. -/
def cutChars (c : Char) : List Char → Option (List Char × List Char)
  | [] => none
  | d :: rest =>
    if d = c then some ([], rest)
    else (cutChars c rest).map fun (before, after) => (d :: before, after)

/-- What stands before and after the first `c` of a text, if there is one. -/
def cut (c : Char) (s : String) : Option (String × String) :=
  (cutChars c s.toList).map fun (before, after) => (String.ofList before, String.ofList after)

/-- `needle` stands somewhere in the text. -/
def occursIn (needle : List Char) : List Char → Bool
  | [] => needle.isEmpty
  | c :: rest => needle.isPrefixOf (c :: rest) || occursIn needle rest

/-- A cut gives the list back, and what stands before it is free of `c`. -/
theorem cutChars_eq_some_iff {c : Char} {cs before after : List Char} :
    cutChars c cs = some (before, after) ↔ cs = before ++ c :: after ∧ c ∉ before := by
  induction cs generalizing before with
  | nil => simp [cutChars]
  | cons d rest ih =>
    unfold cutChars
    split
    · next same => cases before <;> grind
    · next other =>
      cases before with
      | nil =>
        simp
        grind
      | cons b bs =>
        simp only [Option.map_eq_some_iff, Prod.exists]
        grind

/-- There is one way to cut a list at the first `c`. -/
theorem append_cons_inj {c : Char} {front other after rest : List Char} (free : c ∉ front)
    (otherFree : c ∉ other) (same : front ++ c :: after = other ++ c :: rest) :
    front = other ∧ after = rest := by
  have one : cutChars c (front ++ c :: after) = some (front, after) :=
    cutChars_eq_some_iff.mpr ⟨rfl, free⟩
  rw [same, cutChars_eq_some_iff.mpr ⟨rfl, otherFree⟩] at one
  cases one
  exact ⟨rfl, rfl⟩

/-- There is nothing to cut at where the character does not occur. -/
theorem cutChars_eq_none_iff {c : Char} {cs : List Char} : cutChars c cs = none ↔ c ∉ cs := by
  induction cs with
  | nil => simp [cutChars]
  | cons d rest ih => by_cases same : d = c <;> simp [cutChars, same, ih, Ne.symm]

theorem cut_eq_some_iff {c : Char} {s before after : String} :
    cut c s = some (before, after) ↔
      s = before ++ String.singleton c ++ after ∧ c ∉ before.toList := by
  constructor
  · intro found
    obtain ⟨⟨front, back⟩, chars, texts⟩ := Option.map_eq_some_iff.mp found
    obtain ⟨rfl, rfl⟩ := Prod.mk.inj texts
    obtain ⟨parts, free⟩ := cutChars_eq_some_iff.mp chars
    refine ⟨?_, by simpa using free⟩
    rw [← String.toList_inj]
    simpa using parts
  · rintro ⟨rfl, free⟩
    have chars : (before ++ String.singleton c ++ after).toList =
        before.toList ++ c :: after.toList := by simp
    rw [cut, cutChars_eq_some_iff.mpr ⟨chars, free⟩]
    simp

theorem cut_eq_none_iff {c : Char} {s : String} : cut c s = none ↔ c ∉ s.toList := by
  rw [cut, Option.map_eq_none_iff, cutChars_eq_none_iff]

theorem occursIn_iff {needle cs : List Char} : occursIn needle cs ↔ needle <:+: cs := by
  induction cs with
  | nil => simp [occursIn]
  | cons c rest ih => simp [occursIn, ih, List.infix_cons_iff]

/-- Replaces every occurrence of a pattern from the left on, after `skip` characters that belong to
an occurrence replaced already. -/
def replaceFrom (pattern value : List Char) : Nat → List Char → List Char
  | _, [] => []
  | skip + 1, _ :: rest => replaceFrom pattern value skip rest
  | 0, c :: rest =>
    if pattern.isPrefixOf (c :: rest) then
      value ++ replaceFrom pattern value (pattern.length - 1) rest
    else c :: replaceFrom pattern value 0 rest

/-- A text with every occurrence of a pattern replaced by a value. -/
def replaced (pattern value cs : List Char) : List Char := replaceFrom pattern value 0 cs

theorem replaceFrom_length_append (pattern value front rest : List Char) :
    replaceFrom pattern value front.length (front ++ rest) = replaceFrom pattern value 0 rest := by
  induction front with
  | nil => rfl
  | cons c front ih => exact ih

section Replacing

variable {p : Char} {ps value : List Char}

/-- Nothing is replaced where the pattern cannot begin. -/
theorem replaced_append {front : List Char} (free : p ∉ front) (rest : List Char) :
    replaced (p :: ps) value (front ++ rest) = front ++ replaced (p :: ps) value rest := by
  induction front with
  | nil => rfl
  | cons c front ih =>
    rw [List.mem_cons, not_or] at free
    have other : ¬(p :: ps).isPrefixOf (c :: (front ++ rest)) := by simp [free.1]
    rw [replaced, List.cons_append, replaceFrom, if_neg other, ← replaced, ih free.2]
    rfl

theorem replaced_of_not_mem {cs : List Char} (free : p ∉ cs) :
    replaced (p :: ps) value cs = cs := by
  have whole : replaced (p :: ps) value (cs ++ []) = cs ++ replaced (p :: ps) value [] :=
    replaced_append free []
  rwa [List.append_nil, replaced, replaced, replaceFrom, List.append_nil] at whole

theorem replaced_pattern_append (rest : List Char) :
    replaced (p :: ps) value (p :: ps ++ rest) = value ++ replaced (p :: ps) value rest := by
  have here : (p :: ps).isPrefixOf (p :: (ps ++ rest)) := by simp
  rw [replaced, List.cons_append, replaceFrom, if_pos here]
  exact congrArg _ (replaceFrom_length_append _ _ _ _)

end Replacing

/-- The parts of a text between the occurrences of `c`; a text without `c` is one part. -/
def parts (c : Char) (s : String) : List String :=
  (s.toList.splitOn c).map String.ofList

/-- A list put into one text comes back from its parts, if no member holds the separator. -/
theorem parts_intercalate {c : Char} {members : List String} (some : members ≠ [])
    (free : ∀ m ∈ members, c ∉ m.toList) :
    parts c ((String.singleton c).intercalate members) = members := by
  have split : ([c].intercalate (members.map String.toList)).splitOn c =
      members.map String.toList := by
    apply List.splitOn_intercalate
    · simpa using free
    · simpa using some
  rw [parts, String.toList_intercalate, String.toList_singleton, split, List.map_map]
  simp [Function.comp_def]

end DeviceQuery.Text
