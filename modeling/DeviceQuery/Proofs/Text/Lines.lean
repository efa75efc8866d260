import DeviceQuery.Text.Pieces

/-!
# Lines

A text without line ends stands on one line. Texts with a line feed after each of them are the
lines of what they make together, if they hold no line feeds of their own, and only then
(`lines_ended_iff`).
-/

namespace DeviceQuery.Text

/-! ## Texts on one line -/

/-- No line ends here, neither by a line feed nor by a carriage return. -/
def Unbroken (cs : List Char) : Prop := ∀ c ∈ cs, c ≠ '\n' ∧ c ≠ '\r'

instance (cs : List Char) : Decidable (Unbroken cs) := List.decidableBAll _ cs

theorem unbroken_append_iff {xs ys : List Char} :
    Unbroken (xs ++ ys) ↔ Unbroken xs ∧ Unbroken ys := List.forall_mem_append

theorem unbroken_cons_iff {c : Char} {cs : List Char} :
    Unbroken (c :: cs) ↔ (c ≠ '\n' ∧ c ≠ '\r') ∧ Unbroken cs := List.forall_mem_cons

theorem unbroken_nil : Unbroken [] := List.forall_mem_nil _

theorem unbroken_flatMap {α : Type} {code : α → List Char} {values : List α}
    (each : ∀ a ∈ values, Unbroken (code a)) : Unbroken (values.flatMap code) := by
  intro c member
  obtain ⟨a, listed, written⟩ := List.mem_flatMap.mp member
  exact each a listed c written

/-! ## The lines of a text -/

/-- Some texts, each with a line feed after it. -/
def ended (texts : List String) : String := String.join (texts.map (· ++ "\n"))

/-- The lines of a text in which every line is ended, the last one too. -/
def lines (s : String) : List String := (parts '\n' s).dropLast

theorem not_mem_of_mem_splitOn {c : Char} {cs part : List Char} (member : part ∈ cs.splitOn c) :
    c ∉ part := by
  induction cs generalizing part with
  | nil =>
    rw [List.splitOn_nil, List.mem_singleton] at member
    simp [member]
  | cons d cs ih =>
    rw [List.splitOn_cons_eq_if_modifyHead] at member
    split at member
    · rcases List.mem_cons.mp member with rfl | later
      · exact List.not_mem_nil
      · exact ih later
    · next other =>
      obtain ⟨first, more, parted⟩ := List.exists_cons_of_ne_nil (List.splitOn_ne_nil c cs)
      rw [parted] at member ih
      rcases List.mem_cons.mp member with rfl | later
      · have apart : c ≠ d := by
          rintro rfl
          exact other (BEq.refl c)
        exact List.not_mem_cons_of_ne_of_not_mem apart (ih List.mem_cons_self)
      · exact ih (List.mem_cons_of_mem first later)

/-- No line holds a line feed. -/
theorem not_mem_of_mem_lines {s line : String} (member : line ∈ lines s) : '\n' ∉ line.toList := by
  obtain ⟨part, parted, rfl⟩ := List.mem_map.mp (List.dropLast_subset _ member)
  simpa using not_mem_of_mem_splitOn parted

theorem parts_ended_cons {first : String} (free : '\n' ∉ first.toList) (texts : List String) :
    parts '\n' (ended (first :: texts)) = first :: parts '\n' (ended texts) := by
  have chars : (ended (first :: texts)).toList = first.toList ++ '\n' :: (ended texts).toList := by
    simp [ended]
  rw [parts, chars, List.splitOn_append_cons_self_of_not_mem free, List.map_cons,
    String.ofList_toList]
  rfl

theorem parts_ended {texts : List String} (free : ∀ t ∈ texts, '\n' ∉ t.toList) :
    parts '\n' (ended texts) = texts ++ [""] := by
  induction texts with
  | nil => rfl
  | cons first texts ih =>
    obtain ⟨here, later⟩ := List.forall_mem_cons.mp free
    rw [parts_ended_cons here, ih later, List.cons_append]

/-- Texts that are ended by line feeds are lines where they hold none themselves. -/
theorem lines_ended_iff {texts : List String} :
    lines (ended texts) = texts ↔ ∀ t ∈ texts, '\n' ∉ t.toList := by
  constructor
  · intro same t member
    rw [← same] at member
    exact not_mem_of_mem_lines member
  · intro free
    rw [lines, parts_ended free, List.dropLast_concat]

end DeviceQuery.Text
