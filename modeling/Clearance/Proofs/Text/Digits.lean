import Mathlib.Data.List.Induction
import Mathlib.Data.Nat.Digits.Defs
import Clearance.Text.Digits

/-!
# Decimal digits

A text of digits writes a number exactly when it is the number in decimal with zeros in front.

## Main results

* `Text.digits?_eq_some_iff`: the texts that write a number
-/

namespace Clearance.Text

variable {cs : List Char} {n : Nat}

/-- What digits write is what the library reads of them. -/
theorem digits?_eq_some_iff_ofDigitChars :
    digits? cs = some n ↔
      cs ≠ [] ∧ (∀ c ∈ cs, c.isDigit = true) ∧ Nat.ofDigitChars 10 cs 0 = n := by
  rw [digits?]
  split
  · next h =>
    simp only [List.isEmpty_iff, Bool.not_eq_true', List.all_eq_false] at h
    simp only [reduceCtorEq, false_iff, not_and]
    intro hne hdigits
    rcases h with h | ⟨c, hc, hdigit⟩
    · exact absurd h hne
    · exact absurd (hdigits c hc) hdigit
  · next h =>
    simp only [List.isEmpty_iff, Bool.not_eq_true', not_or, Bool.not_eq_false,
      List.all_eq_true] at h
    simp only [Nat.ofDigitChars_eq_foldl, Option.some.injEq]
    exact ⟨fun hn => ⟨h.1, h.2, hn⟩, fun hn => hn.2.2⟩

theorem digitChar_of_isDigit {c : Char} (h : c.isDigit = true) :
    Nat.digitChar (c.toNat - '0'.toNat) = c ∧ c.toNat - '0'.toNat < 10 := by
  obtain ⟨hlow, hhigh⟩ : 48 ≤ c.toNat ∧ c.toNat ≤ 57 := by
    simpa [Char.isDigit, UInt32.le_iff_toNat_le] using h
  have hzero : '0'.toNat = 48 := rfl
  have hlt : c.toNat - '0'.toNat < 10 := by omega
  refine ⟨Char.toNat_inj.mp ?_, hlt⟩
  rw [Nat.toNat_digitChar_of_lt_ten hlt]
  omega

/-- Digits are the decimal form of their number with zeros in front, which one more digit at the end
keeps. -/
theorem exists_zeros_of_ofDigitChars (hne : cs ≠ []) (h : ∀ c ∈ cs, c.isDigit = true) :
    ∃ zeros, cs = List.replicate zeros '0' ++ Nat.toDigits 10 (Nat.ofDigitChars 10 cs 0) := by
  induction cs using List.reverseRecOn with
  | nil => exact absurd rfl hne
  | append_singleton cs c ih =>
    obtain ⟨hchar, hlt⟩ := digitChar_of_isDigit (h c (by simp))
    have hvalue : Nat.ofDigitChars 10 (cs ++ [c]) 0 =
        10 * Nat.ofDigitChars 10 cs 0 + (c.toNat - '0'.toNat) := by
      rw [Nat.ofDigitChars_append]
      rfl
    rw [hvalue]
    rcases eq_or_ne cs [] with rfl | hcs
    · refine ⟨0, ?_⟩
      rw [Nat.ofDigitChars_nil, Nat.mul_zero, Nat.zero_add, Nat.toDigits_of_lt_base hlt, hchar]
      rfl
    · obtain ⟨zeros, hzeros⟩ := ih hcs fun d hd => h d (List.mem_append_left _ hd)
      rcases Nat.eq_zero_or_pos (Nat.ofDigitChars 10 cs 0) with h0 | hpos
      · -- the digits before are all zeros
        refine ⟨zeros + 1, ?_⟩
        rw [h0, Nat.toDigits_zero] at hzeros
        rw [h0, Nat.mul_zero, Nat.zero_add, Nat.toDigits_of_lt_base hlt, hchar, hzeros,
          List.replicate_succ']
      · refine ⟨zeros, ?_⟩
        rw [← Nat.toDigits_append_toDigits (by decide) hpos hlt, Nat.toDigits_of_lt_base hlt, hchar,
          ← List.append_assoc, ← hzeros]

/-- **Digits write a number** exactly when they are its decimal form with zeros in front. -/
theorem digits?_eq_some_iff :
    digits? cs = some n ↔ ∃ zeros, cs = List.replicate zeros '0' ++ Nat.toDigits 10 n := by
  rw [digits?_eq_some_iff_ofDigitChars]
  constructor
  · rintro ⟨hne, hdigits, rfl⟩
    exact exists_zeros_of_ofDigitChars hne hdigits
  · rintro ⟨zeros, rfl⟩
    refine ⟨by simp [Nat.toDigits_ne_nil], fun c hc => ?_, ?_⟩
    · rcases List.mem_append.mp hc with hc | hc
      · rw [List.eq_of_mem_replicate hc]
        rfl
      · exact Nat.isDigit_of_mem_toDigits (b := 10) (by decide) (by decide) hc
    · rw [Nat.ofDigitChars_append, Nat.ofDigitChars_replicate_zero, Nat.mul_zero,
        Nat.ofDigitChars_ten_toDigits]

end Clearance.Text
