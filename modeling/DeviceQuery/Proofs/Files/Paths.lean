import DeviceQuery.Files.Tree
import Mathlib.Data.List.SplitOn

/-!
# Texts of paths

The names in a path stand between its slashes, so a path is cut into names at any of its slashes
(`names_ofList`). A file is joined to a directory as one more name (`names_joined`), whether the
directory ends in a slash or not.
-/

namespace DeviceQuery.Files

theorem names_ofList (front back : List Char) :
    names (String.ofList (front ++ '/' :: back)) =
      names (String.ofList front) ++ names (String.ofList back) := by
  have cut : (front ++ '/' :: back).splitOn '/' = front.splitOn '/' ++ back.splitOn '/' :=
    List.splitOnP_append_cons front back (BEq.refl '/')
  simp only [names, String.toList_ofList, cut, List.map_append, List.filter_append]

/-- A text without slashes is a name, unless it is empty. -/
theorem names_of_free {name : String} (named : name ≠ "") (free : '/' ∉ name.toList) :
    names name = [name] := by
  have whole : name.toList.splitOn '/' = [name.toList] := by
    refine List.splitOnP_eq_singleton fun c member => beq_false_of_ne ?_
    rintro rfl
    exact free member
  simp [names, whole, named]

/-- Between a directory and a file stands a slash or nothing. -/
theorem toList_joined (directory file : String) :
    ∃ gap, (joined directory file).toList = directory.toList ++ (gap ++ file.toList) ∧
      ∀ c ∈ gap, c = '/' := by
  unfold joined
  split
  · exact ⟨[], String.toList_append, List.forall_mem_nil _⟩
  · exact ⟨['/'], by simp, by simp⟩

theorem mem_joined_iff {directory file : String} {c : Char} (apart : c ≠ '/')
    (free : c ∉ file.toList) : c ∈ (joined directory file).toList ↔ c ∈ directory.toList := by
  obtain ⟨gap, chars, slashes⟩ := toList_joined directory file
  have none : c ∉ gap := fun member => apart (slashes c member)
  simp [chars, none, free]

theorem names_joined (directory : String) {file : String} (named : file ≠ "")
    (free : '/' ∉ file.toList) : names (joined directory file) = names directory ++ [file] := by
  have single : names (String.ofList file.toList) = [file] := by
    rw [String.ofList_toList, names_of_free named free]
  unfold joined
  split
  · next ends =>
    by_cases empty : directory = ""
    · have nothing : names "" = [] := by decide
      rw [empty, nothing, String.empty_append, names_of_free named free]
      rfl
    · -- the slash at the end of the directory parts the two already
      have last : directory.toList.getLast? = some '/' :=
        of_decide_eq_true (ends.resolve_left empty)
      obtain ⟨front, chars⟩ := List.getLast?_eq_some_iff.mp last
      have whole : directory = String.ofList (front ++ '/' :: []) := by
        rw [← chars, String.ofList_toList]
      have both : directory ++ file = String.ofList (front ++ '/' :: file.toList) := by
        rw [← String.toList_inj, String.toList_append, String.toList_ofList, chars]
        simp
      have nothing : names (String.ofList []) = [] := by decide
      rw [both, names_ofList, single, whole, names_ofList, nothing, List.append_nil]
  · have both : directory ++ "/" ++ file =
        String.ofList (directory.toList ++ '/' :: file.toList) := by
      rw [← String.toList_inj, String.toList_ofList]
      simp
    rw [both, names_ofList, single, String.ofList_toList]

theorem pathFault?_eq_none_iff {path : String} :
    pathFault? path = none ↔ '\x00' ∉ path.toList ∧ path.utf8ByteSize ≤ 4095 := by
  unfold pathFault?
  split
  · next found => simp [List.contains_iff_mem.mp found]
  · next absent =>
    have free : '\x00' ∉ path.toList := fun member => absent (List.contains_iff_mem.mpr member)
    split
    · next long => simp [Nat.not_le.mpr long]
    · next short => simp [free, Nat.not_lt.mp short]

theorem utf8ByteSize_le_joined (directory file : String) :
    directory.utf8ByteSize ≤ (joined directory file).utf8ByteSize := by
  unfold joined
  split <;> simp only [String.utf8ByteSize_append] <;> omega

/-- A longer file name makes a longer path. -/
theorem utf8ByteSize_joined_le {file longer : String}
    (longerThan : file.utf8ByteSize ≤ longer.utf8ByteSize) (directory : String) :
    (joined directory file).utf8ByteSize ≤ (joined directory longer).utf8ByteSize := by
  unfold joined
  split <;> simp only [String.utf8ByteSize_append] <;> omega

end DeviceQuery.Files
