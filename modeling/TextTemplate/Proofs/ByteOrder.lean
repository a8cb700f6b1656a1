import Mathlib.Data.List.Basic

/-!
# The order of texts is the order of their bytes

Texts are ordered by code points. UTF-8 keeps this order: the first byte grows with the number of
bytes, and of two characters with equally many bytes the lesser one has the lesser byte where they
first differ. So texts are ordered as their encodings are, byte by byte (`lt_iff_bytes_lt`).
-/

namespace TextTemplate.Text

open String (utf8EncodeChar)

/-- The bytes of a text. -/
def bytes (text : String) : List UInt8 :=
  text.toUTF8.data.toList

/-- The lesser character has the lesser bytes, whatever follows the two. -/
theorem encode_lt {c d : Char} (before : c < d) (s t : List UInt8) :
    utf8EncodeChar c ++ s < utf8EncodeChar d ++ t := by
  have bound : d.val.toNat < 0x110000 := by
    rcases d.valid with low | ⟨-, high⟩ <;> omega
  rw [Char.lt_def, UInt32.lt_iff_toNat_lt] at before
  have byte (n : Nat) (small : n < 256) : (UInt8.ofNat n).toNat = n :=
    UInt8.toNat_ofNat_of_lt' small
  have lead (n : Nat) (small : n < 8) : n % 8 = n := Nat.mod_eq_of_lt small
  -- the two numbers of bytes decide, or the digits in base 64 do
  unfold utf8EncodeChar
  generalize c.val.toNat = m at *
  generalize d.val.toNat = n at *
  dsimp only
  split_ifs <;>
    simp (disch := omega) only [List.cons_append, List.nil_append, List.cons_lt_cons_iff,
      UInt8.lt_iff_toNat_lt, ← UInt8.toNat_inj, byte, lead] <;>
    omega

theorem encodeAll_lt {s t : List Char} (before : s < t) :
    s.flatMap utf8EncodeChar < t.flatMap utf8EncodeChar := by
  induction s generalizing t with
  | nil =>
    cases t with
    | nil => exact absurd before (List.not_lt_nil _)
    | cons d t =>
      obtain ⟨byte, rest, same⟩ :=
        List.exists_cons_of_ne_nil (String.utf8EncodeChar_ne_nil (c := d))
      rw [List.flatMap_cons, same]
      exact List.nil_lt_cons _ _
  | cons c s ih =>
    cases t with
    | nil => exact absurd before (List.not_lt_nil _)
    | cons d t =>
      rw [List.flatMap_cons, List.flatMap_cons]
      rcases List.cons_lt_cons_iff.1 before with here | ⟨rfl, later⟩
      · exact encode_lt here _ _
      · exact List.append_left_lt (ih later)

theorem bytes_eq (text : String) : bytes text = text.toList.flatMap utf8EncodeChar := by
  unfold bytes
  rw [String.toUTF8_eq_toByteArray, ← String.utf8Encode_toList, List.utf8Encode,
    List.toList_data_toByteArray]

theorem bytes_lt {s t : String} (before : s < t) : bytes s < bytes t := by
  rw [bytes_eq, bytes_eq]
  exact encodeAll_lt (String.lt_iff.1 before)

/-- Texts are ordered as their bytes are. -/
theorem lt_iff_bytes_lt (s t : String) : s < t ↔ bytes s < bytes t := by
  refine ⟨bytes_lt, fun before => ?_⟩
  by_contra notBefore
  have same : s ≠ t := by
    rintro rfl
    exact List.lt_irrefl _ before
  have after : t < s := Std.lt_of_le_of_ne (String.not_lt.1 notBefore) (Ne.symm same)
  exact List.lt_asymm before (bytes_lt after)

end TextTemplate.Text
