import Mathlib.Tactic.SplitIfs
import SessionKeeper.Text.Utf8

/-!
# The order of texts in UTF-8

Texts are ordered by their characters. Their encodings have the same order byte by byte, since the
first bytes in which the encodings of two characters differ are in the order of the characters.
-/

namespace SessionKeeper.Text

/-- The bytes of a text. -/
def bytes (s : String) : List UInt8 :=
  s.toUTF8.data.toList

theorem bytes_eq (s : String) : bytes s = s.toList.flatMap String.utf8EncodeChar := by
  rw [bytes, String.toUTF8, ← String.utf8Encode_toList, List.utf8Encode, List.data_toByteArray]

/-- Bytes that differ somewhere, and first where those on the left have the smaller one. -/
def Precedes : List UInt8 → List UInt8 → Prop
  | x :: xs, y :: ys => x < y ∨ x = y ∧ Precedes xs ys
  | _, _ => False

/-- Where bytes differ, those behind them do not matter. -/
theorem Precedes.append_lt {xs ys : List UInt8} (h : Precedes xs ys) (us vs : List UInt8) :
    xs ++ us < ys ++ vs := by
  induction xs generalizing ys with
  | nil => exact h.elim
  | cons x xs ih =>
      cases ys with
      | nil => exact h.elim
      | cons y ys =>
          rw [List.cons_append, List.cons_append, List.cons_lt_cons_iff]
          exact h.imp_right fun ⟨heq, hrest⟩ => ⟨heq, ih hrest⟩

theorem ofNat_lt_iff {m n : Nat} : UInt8.ofNat m < UInt8.ofNat n ↔ m % 256 < n % 256 := by
  simp [UInt8.lt_iff_toNat_lt]

theorem ofNat_eq_iff {m n : Nat} : UInt8.ofNat m = UInt8.ofNat n ↔ m % 256 = n % 256 := by
  simp [← UInt8.toNat_inj]

/-- Characters are encoded in their order. -/
theorem precedes_of_lt {c d : Char} (h : c < d) :
    Precedes (String.utf8EncodeChar c) (String.utf8EncodeChar d) := by
  have hlt : c.val.toNat < d.val.toNat := h
  have hlimit : d.val.toNat < 0x110000 := by
    rcases d.valid with h | h <;> omega
  unfold String.utf8EncodeChar
  generalize c.val.toNat = m at hlt ⊢
  generalize d.val.toNat = n at hlt hlimit ⊢
  -- the bytes of a character are its digits to the base 64, so they differ where these do
  have hdigits : m / 262144 < n / 262144 ∨ m / 262144 = n / 262144 ∧ (m / 4096 < n / 4096 ∨
      m / 4096 = n / 4096 ∧ (m / 64 < n / 64 ∨ m / 64 = n / 64)) := by omega
  dsimp only
  split_ifs <;> simp only [Precedes, ofNat_lt_iff, ofNat_eq_iff] <;>
    rcases hdigits with h | ⟨-, h | ⟨-, h | h⟩⟩ <;> omega

theorem flatMap_lt {cs ds : List Char} (h : cs < ds) :
    cs.flatMap String.utf8EncodeChar < ds.flatMap String.utf8EncodeChar := by
  induction h with
  | @nil c cs =>
      obtain ⟨b, bs, hc⟩ := List.exists_cons_of_ne_nil (String.utf8EncodeChar_ne_nil (c := c))
      rw [List.flatMap_cons, hc]
      exact .nil
  | cons _ ih =>
      rw [List.flatMap_cons, List.flatMap_cons]
      exact List.append_left_lt ih
  | rel hlt =>
      rw [List.flatMap_cons, List.flatMap_cons]
      exact (precedes_of_lt hlt).append_lt _ _

/-- Texts are ordered as their bytes are. -/
theorem bytes_lt_of_lt {s t : String} (h : s < t) : bytes s < bytes t := by
  rw [bytes_eq, bytes_eq]
  exact flatMap_lt h

/-- Texts are compared as their bytes are. -/
theorem bytes_lt_of_compare {s t : String} (h : compare s t = .lt) : bytes s < bytes t := by
  refine bytes_lt_of_lt ?_
  change compareOfLessAndEq s t = .lt at h
  rwa [compareOfLessAndEq_eq_lt] at h

end SessionKeeper.Text
