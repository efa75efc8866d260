import Mathlib.Tactic.ByContra
import Mathlib.Tactic.SplitIfs

/-!
# The bytes of a text

Texts are ordered by their code points. UTF-8 is made so that this is the order of the bytes too
(`bytes_lt_iff`): of two different characters neither one's bytes begin with the other's, and the
first byte that differs is the smaller one in the smaller character (`diverges_encode`).
-/

namespace DeviceQuery.Text

/-- The bytes of a text in UTF-8. -/
def bytes (s : String) : List UInt8 := s.toUTF8.data.toList

theorem bytes_eq (s : String) : bytes s = s.toList.flatMap String.utf8EncodeChar := by
  conv => lhs; rw [← String.ofList_toList (s := s)]
  exact List.toList_data_toByteArray

/-- The first place where the lists differ is in both of them, and holds the smaller byte in the
first one. -/
def Diverges : List UInt8 → List UInt8 → Prop
  | x :: xs, y :: ys => x < y ∨ x = y ∧ Diverges xs ys
  | _, _ => False

/-- What follows does not count once two lists have parted. -/
theorem Diverges.append_lt {xs ys : List UInt8} (parted : Diverges xs ys)
    (more others : List UInt8) : xs ++ more < ys ++ others := by
  induction xs generalizing ys with
  | nil => exact parted.elim
  | cons x xs ih =>
    cases ys with
    | nil => exact parted.elim
    | cons y ys =>
      rcases parted with below | ⟨rfl, parted⟩
      · exact List.Lex.rel below
      · exact List.Lex.cons (ih parted)

/-- The bytes of a smaller character part from those of a greater one. -/
theorem diverges_encode {c d : Char} (below : c < d) :
    Diverges (String.utf8EncodeChar c) (String.utf8EncodeChar d) := by
  have order : c.val.toNat < d.val.toNat := below
  have bound : d.val.toNat < 0x110000 := by
    have valid := d.valid
    simp only [UInt32.isValidChar, Nat.isValidChar] at valid
    omega
  have digits (n : Nat) : n / 4096 = n / 64 / 64 ∧ n / 262144 = n / 64 / 64 / 64 := by
    simp only [Nat.div_div_eq_div_mul, and_self]
  simp only [String.utf8EncodeChar, digits]
  generalize c.val.toNat = m at order
  generalize d.val.toNat = n at order bound
  -- characters of one length are told apart by their digits, others by the first byte
  split_ifs <;>
    simp only [Diverges, UInt8.lt_iff_toNat_lt, ← UInt8.toNat_inj, UInt8.toNat_ofNat', and_false,
      or_false] <;>
    omega

theorem flatMap_encode_lt {cs ds : List Char} (below : cs < ds) :
    cs.flatMap String.utf8EncodeChar < ds.flatMap String.utf8EncodeChar := by
  induction below with
  | @nil d ds =>
    rw [List.flatMap_nil, List.flatMap_cons]
    cases encoded : String.utf8EncodeChar d with
    | nil => exact absurd encoded String.utf8EncodeChar_ne_nil
    | cons b bs => exact List.Lex.nil
  | rel less => exact (diverges_encode less).append_lt _ _
  | cons _ ih => exact List.append_left_lt ih

theorem bytes_lt {s t : String} (below : s < t) : bytes s < bytes t := by
  rw [bytes_eq, bytes_eq]
  exact flatMap_encode_lt (String.lt_iff.mp below)

/-- The order of texts is the order of their bytes. -/
theorem bytes_lt_iff {s t : String} : bytes s < bytes t ↔ s < t := by
  refine ⟨fun below => ?_, bytes_lt⟩
  by_contra other
  have le : t ≤ s := String.not_lt.mp other
  by_cases same : t = s
  · exact List.lt_irrefl _ (same ▸ below)
  · exact List.lt_asymm below (bytes_lt (Std.lt_of_le_of_ne le same))

end DeviceQuery.Text
