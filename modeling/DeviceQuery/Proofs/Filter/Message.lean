import DeviceQuery.Filter.Balance
import DeviceQuery.Text.Pieces

/-!
# The words for a shortfall

The words for an operator without enough operands give the word of the operator, its position and
the two counts, each between words that are always the same. All four can be read off again
(`message_inj`).
-/

namespace DeviceQuery

theorem Operator.word_inj {op other : Operator} : op.word = other.word ↔ op = other := by
  refine ⟨fun same => ?_, congrArg word⟩
  have read := ofWord?_word op
  rw [same, ofWord?_word] at read
  exact (Option.some.inj read).symm

theorem Operator.blank_notMem_word (op : Operator) : ' ' ∉ op.word.toList := by
  cases op <;> decide

theorem blank_notMem_repr (n : Nat) : ' ' ∉ (toString n).toList := by
  intro member
  rw [Nat.toString_eq_repr, Nat.toList_repr] at member
  exact absurd (Nat.isDigit_of_mem_toDigits (by decide) (by decide) member) (by decide)

/-- A number is read off its digits. -/
theorem toList_toString_inj {m n : Nat} (same : (toString m).toList = (toString n).toList) :
    m = n := by
  simp only [Nat.toString_eq_repr, Nat.toList_repr] at same
  have read := congrArg (fun digits => Nat.ofDigitChars 10 digits 0) same
  simpa only [Nat.ofDigitChars_ten_toDigits] using read

namespace Shortfall

/-- The characters of the message, cut where the blanks stand behind its four parts. -/
theorem toList_message (s : Shortfall) :
    s.message.toList =
      "operator ".toList ++ (s.operator.word.toList ++ ' ' :: ("at position ".toList ++
        ((toString s.position).toList ++ ' ' :: ("needs ".toList ++
          ((toString s.needed).toList ++ ' ' :: ("operand(s), found ".toList ++
            (toString s.found).toList)))))) := by
  simp [message]

/-- The message tells all there is to a shortfall. -/
theorem message_inj {s t : Shortfall} : s.message = t.message ↔ s = t := by
  refine ⟨fun same => ?_, congrArg message⟩
  rw [← String.toList_inj, toList_message, toList_message] at same
  obtain ⟨operator, same⟩ := Text.append_cons_inj s.operator.blank_notMem_word
    t.operator.blank_notMem_word (List.append_cancel_left same)
  obtain ⟨position, same⟩ := Text.append_cons_inj (blank_notMem_repr _) (blank_notMem_repr _)
    (List.append_cancel_left same)
  obtain ⟨needed, same⟩ := Text.append_cons_inj (blank_notMem_repr _) (blank_notMem_repr _)
    (List.append_cancel_left same)
  have found := List.append_cancel_left same
  cases s
  cases t
  cases Operator.word_inj.mp (String.toList_inj.mp operator)
  cases toList_toString_inj position
  cases toList_toString_inj needed
  cases toList_toString_inj found
  rfl

end Shortfall

end DeviceQuery
