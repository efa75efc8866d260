import DeviceQuery.Proofs.Text.Case
import DeviceQuery.Settings.Basic

/-!
# What the texts of settings say

A text names a style by one of the style's names, in any case and between blanks
(`ofText_eq_ok_iff`). It says yes or no by one of a few words, in any case too, but with nothing
around it (`isYes_iff`).
-/

namespace DeviceQuery

namespace NameStyle

/-- The names of a style. -/
def names : NameStyle → List String
  | kebab => ["kebab", "dash"]
  | snake => ["snake", "snake_case"]

/-- The text is one of the style's names in any case, with blanks around it or not. -/
def NamedBy (style : NameStyle) (text : String) : Prop :=
  ∃ core, Text.Padded core text ∧ Text.OneOf style.names core

theorem namedBy_iff {style : NameStyle} {text : String} :
    style.NamedBy text ↔ folded text ∈ style.names :=
  Text.exists_padded_oneOf_iff (by cases style <;> decide)

instance (style : NameStyle) (text : String) : Decidable (style.NamedBy text) :=
  decidable_of_iff _ namedBy_iff.symm

theorem ofText_eq_ok_iff {style : NameStyle} {text : String} :
    ofText text = .ok style ↔ style.NamedBy text := by
  rw [namedBy_iff, ofText]
  split
  case h_5 notKebab notDash notSnake notSnakeCase =>
    have unnamed : folded text ∉ style.names := by
      cases style
      · exact fun member => (List.mem_pair.mp member).elim notKebab notDash
      · exact fun member => (List.mem_pair.mp member).elim notSnake notSnakeCase
    simp [unnamed]
  all_goals
    next same =>
      rw [same]
      cases style <;> simp [names]

/-- The text names one of the styles. -/
def Accepted (text : String) : Prop := ∃ style : NameStyle, style.NamedBy text

theorem accepted_iff {text : String} : Accepted text ↔ kebab.NamedBy text ∨ snake.NamedBy text := by
  constructor
  · rintro ⟨_ | _, named⟩
    · exact .inl named
    · exact .inr named
  · rintro (named | named) <;> exact ⟨_, named⟩

instance (text : String) : Decidable (Accepted text) := decidable_of_iff _ accepted_iff.symm

/-- What is said of a text that names no style: it is told trimmed and in small letters. -/
theorem ofText_of_not_accepted {text : String} (other : ¬Accepted text) :
    ofText text =
      .error (.settings ("unknown case mode: " ++ (Text.trim text).toLower)) := by
  cases read : ofText text with
  | ok style => exact absurd ⟨style, ofText_eq_ok_iff.mp read⟩ other
  | error f =>
    unfold ofText at read
    split at read
    case h_5 => exact read.symm
    all_goals cases read

end NameStyle

namespace Settings

/-- The text says yes, in any case. -/
def Affirms (text : String) : Prop := Text.OneOf ["1", "true", "yes"] text

/-- The text says no, in any case. -/
def Denies (text : String) : Prop := Text.OneOf ["0", "false", "no"] text

theorem affirms_iff {text : String} : Affirms text ↔ text.toLower ∈ ["1", "true", "yes"] :=
  Text.oneOf_iff (by decide)

theorem denies_iff {text : String} : Denies text ↔ text.toLower ∈ ["0", "false", "no"] :=
  Text.oneOf_iff (by decide)

instance (text : String) : Decidable (Affirms text) := decidable_of_iff _ affirms_iff.symm

instance (text : String) : Decidable (Denies text) := decidable_of_iff _ denies_iff.symm

theorem isYes_iff {text : String} : isYes text ↔ Affirms text := by
  rw [affirms_iff, isYes]
  split
  case h_4 notOne notTrue notYes =>
    have other : text.toLower ∉ ["1", "true", "yes"] := by
      simpa using ⟨notOne, notTrue, notYes⟩
    simp [other]
  all_goals
    next same => simp [same]

theorem not_affirms_of_denies {text : String} (denies : Denies text) : ¬Affirms text := by
  rw [affirms_iff]
  rw [denies_iff] at denies
  intro affirms
  simp only [List.mem_cons, List.not_mem_nil, or_false] at affirms denies
  rcases denies with no | no | no <;> simp [no] at affirms

end Settings

end DeviceQuery
