import Mathlib.Data.String.Basic

/-!
# The order of bytes

Names are put in order by the bytes of their UTF-8 encoding.  A smaller character has the smaller
bytes, whatever follows it: a longer encoding begins with a greater byte, and encodings of one length
differ in a digit to the base of 64.  So the order of bytes is the order of texts.

## Main definitions

* `Text.bytes`: the bytes of a text

## Main results

* `Text.bytes_le_bytes_iff`: the order of bytes is the order of texts
-/

namespace Clearance.Text

/-- The bytes of a text in UTF-8. -/
def bytes (s : String) : List UInt8 := s.toUTF8.data.toList

theorem bytes_eq (s : String) : bytes s = s.toList.flatMap String.utf8EncodeChar := by
  rw [bytes, String.toUTF8_eq_toByteArray, ← String.utf8Encode_toList, List.utf8Encode,
    List.data_toByteArray]

/-- **A smaller character has the smaller bytes**, whatever follows. -/
theorem encode_lt_encode {c d : Char} (h : c < d) (rest rest' : List UInt8) :
    String.utf8EncodeChar c ++ rest < String.utf8EncodeChar d ++ rest' := by
  have hlt : c.val.toNat < d.val.toNat := h
  have hvalid : d.val.toNat < 0x110000 := by
    have := d.valid
    omega
  simp only [String.utf8EncodeChar]
  generalize c.val.toNat = m at hlt
  generalize d.val.toNat = n at hlt hvalid
  -- the lengths are compared, and under each pair of them the bytes from the first on
  split_ifs
  all_goals
    simp (disch := omega) only [List.cons_append, List.nil_append, List.cons_lt_cons_iff,
      UInt8.lt_iff_toNat_lt, ← UInt8.toNat_inj, UInt8.toNat_ofNat', Nat.mod_eq_of_lt]
    omega

theorem encode_ne_nil (c : Char) : String.utf8EncodeChar c ≠ [] := by
  intro h
  have hlength := String.length_utf8EncodeChar c
  rw [h, List.length_nil] at hlength
  exact absurd hlength c.utf8Size_pos.ne

theorem flatMap_encode_lt {cs ds : List Char} (h : List.Lex (· < ·) cs ds) :
    cs.flatMap String.utf8EncodeChar < ds.flatMap String.utf8EncodeChar := by
  -- along the characters that are the same, up to the first that differs
  induction h with
  | @nil d _ =>
    obtain ⟨b, more, hd⟩ := List.exists_cons_of_ne_nil (encode_ne_nil d)
    rw [List.flatMap_cons, hd]
    exact List.nil_lt_cons _ _
  | cons _ ih => exact List.append_left_lt ih
  | rel h => exact encode_lt_encode h _ _

theorem bytes_lt_bytes {s t : String} (h : s < t) : bytes s < bytes t := by
  rw [bytes_eq, bytes_eq]
  exact flatMap_encode_lt h

/-- **The order of bytes is the order of texts.** -/
theorem bytes_le_bytes_iff {s t : String} : bytes s ≤ bytes t ↔ s ≤ t := by
  constructor
  · intro h
    by_contra hlt
    exact h (bytes_lt_bytes (String.not_le.mp hlt))
  · intro h hlt
    rcases lt_or_eq_of_le h with h | rfl
    · exact List.lt_asymm (bytes_lt_bytes h) hlt
    · exact List.lt_irrefl _ hlt

end Clearance.Text
