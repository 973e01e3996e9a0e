import Clearance.Json.Printer
import Clearance.Json.Reader

/-!
# Written words, numbers and strings are read back

The parts of a document that have no parts of their own.  Whatever a printer writes of them, a
reader takes exactly that, and leaves what follows.  A number does not tell where it ends, so what
follows must not go on with it; behind a value in a document there is a comma, the end of an array
or object, or white space, and nothing behind the last.

## Main definitions

* `Json.Ends`: what may follow a value

## Main results

* `Json.readString_escaped`: every string is read back, whatever its characters
* `Json.readNumber_toDigits`: so is every natural number of 64 bits
-/

namespace Clearance.Json

/-- What follows a value: a comma, the end of an array or object, white space, or nothing. -/
def Ends (tail : List Char) : Prop :=
  ∀ x ∈ tail.head?, x = ',' ∨ x = ']' ∨ x = '\x7d' ∨ isSeparator x = true

theorem ends_nil : Ends [] := nofun

theorem ends_cons {x : Char} (hx : x = ',' ∨ x = ']' ∨ x = '\x7d' ∨ isSeparator x = true)
    (tail : List Char) : Ends (x :: tail) := by
  intro y hy
  obtain rfl : x = y := Option.some.inj hy
  exact hx

/-! ## Strings -/

/-- The three ways in which a character is written: as itself, by a letter, by its code unit. -/
theorem escaped_cases (c : Char) :
    (escaped c = [c] ∧ c ≠ '"' ∧ c ≠ '\\' ∧ ¬c.toNat < 0x20) ∨
    (∃ letter, escaped c = ['\\', letter] ∧ escapeLetters.lookup letter = some c) ∨
    (c.toNat < 0x20 ∧
      escaped c = ['\\', 'u', '0', '0', hexDigit (c.toNat / 16), hexDigit c.toNat]) := by
  unfold escaped
  split
  · exact .inr (.inl ⟨'"', rfl, rfl⟩)
  · exact .inr (.inl ⟨'\\', rfl, rfl⟩)
  · exact .inr (.inl ⟨'n', rfl, rfl⟩)
  · exact .inr (.inl ⟨'r', rfl, rfl⟩)
  · exact .inr (.inl ⟨'t', rfl, rfl⟩)
  · exact .inr (.inl ⟨'b', rfl, rfl⟩)
  · exact .inr (.inl ⟨'f', rfl, rfl⟩)
  · next quote backslash _ _ _ _ _ =>
    by_cases hc : c.toNat < 0x20
    · rw [if_pos hc]
      exact .inr (.inr ⟨hc, rfl⟩)
    · rw [if_neg hc]
      exact .inl ⟨rfl, quote, backslash, hc⟩

theorem hexNumber?_control : ∀ n < 0x20,
    hexNumber? ['0', '0', hexDigit (n / 16), hexDigit n] = some n := by
  decide

/-- A control that is written by its code unit. -/
theorem readEscape_control {c : Char} (hc : c.toNat < 0x20) (tail : List Char) (offset : Nat) :
    readEscape ⟨'u' :: '0' :: '0' :: hexDigit (c.toNat / 16) :: hexDigit c.toNat :: tail, offset⟩ =
      .ok (c, ⟨tail, offset + 1 + 4⟩) := by
  have hunit : readUnit
      ⟨'0' :: '0' :: hexDigit (c.toNat / 16) :: hexDigit c.toNat :: tail, offset + 1⟩ =
      .ok (c.toNat, ⟨tail, offset + 1 + 4⟩) := by
    simp [readUnit, hexNumber?_control _ hc]
  have hletter : escapeLetters.lookup 'u' = none := rfl
  have hlow : ¬(0xDC00 ≤ c.toNat ∧ c.toNat ≤ 0xDFFF) := by omega
  have hhigh : ¬(0xD800 ≤ c.toNat ∧ c.toNat ≤ 0xDBFF) := by omega
  simp only [readEscape, hletter, if_true, readCodeUnits, hunit, bind, Except.bind, if_neg hlow,
    if_neg hhigh, Char.ofNat_toNat]

/-- A character that stands for itself. -/
theorem readStringFrom_plain {c : Char} (hquote : c ≠ '"') (hbackslash : c ≠ '\\')
    (hcontrol : ¬c.toNat < 0x20) (rest : List Char) (fuel offset : Nat) :
    readStringFrom (fuel + 1) ⟨c :: rest, offset⟩ =
      (readStringFrom fuel ⟨rest, offset + c.utf8Size⟩).map fun r => (c :: r.1, r.2) := by
  rw [readStringFrom]
  split
  · next h => cases h
  · next h => exact absurd (List.cons.inj h).1 hquote
  · next h => exact absurd (List.cons.inj h).1 hbackslash
  · next h =>
    obtain ⟨rfl, rfl⟩ := List.cons.inj h
    rw [if_neg hcontrol]
    rfl

theorem readStringFrom_escaped (cs : List Char) (tail : List Char) (fuel offset : Nat)
    (hfuel : cs.length < fuel) :
    ∃ offset', readStringFrom fuel ⟨cs.flatMap escaped ++ '"' :: tail, offset⟩ =
      .ok (cs, ⟨tail, offset'⟩) := by
  -- each character takes a step, however many it is written with
  induction cs generalizing fuel offset with
  | nil =>
    obtain ⟨fuel, rfl⟩ : ∃ n, fuel = n + 1 := ⟨fuel - 1, by simp at hfuel; omega⟩
    exact ⟨offset + 1, rfl⟩
  | cons c cs ih =>
    obtain ⟨fuel, rfl⟩ : ∃ n, fuel = n + 1 := ⟨fuel - 1, by simp at hfuel; omega⟩
    have hfuel' : cs.length < fuel := by simpa using hfuel
    rw [List.flatMap_cons, List.append_assoc]
    obtain ⟨he, quote, backslash, control⟩ | ⟨letter, he, hletter⟩ | ⟨control, he⟩ :=
      escaped_cases c
    · obtain ⟨offset', hrest⟩ := ih fuel (offset + c.utf8Size) hfuel'
      refine ⟨offset', ?_⟩
      rw [he, List.singleton_append, readStringFrom_plain quote backslash control, hrest]
      rfl
    · obtain ⟨offset', hrest⟩ := ih fuel (offset + 1 + 1) hfuel'
      refine ⟨offset', ?_⟩
      rw [he]
      simp only [List.cons_append, List.nil_append, readStringFrom, readEscape, hletter, bind,
        Except.bind, hrest]
    · obtain ⟨offset', hrest⟩ := ih fuel (offset + 1 + 1 + 4) hfuel'
      refine ⟨offset', ?_⟩
      rw [he]
      simp only [List.cons_append, List.nil_append, readStringFrom, readEscape_control control,
        bind, Except.bind, hrest]

theorem length_le_flatMap_escaped (cs : List Char) : cs.length ≤ (cs.flatMap escaped).length := by
  induction cs with
  | nil => exact Nat.le_refl _
  | cons c cs ih =>
    have hc : 1 ≤ (escaped c).length := by
      obtain ⟨he, -⟩ | ⟨letter, he, -⟩ | ⟨-, he⟩ := escaped_cases c <;> simp [he]
    rw [List.flatMap_cons, List.length_append, List.length_cons]
    omega

/-- **Every string is read back**, from behind its opening quote. -/
theorem readString_escaped (s : String) (tail : List Char) (offset : Nat) :
    ∃ offset', readString ⟨s.toList.flatMap escaped ++ '"' :: tail, offset⟩ =
      .ok (s, ⟨tail, offset'⟩) := by
  have hlen := length_le_flatMap_escaped s.toList
  obtain ⟨offset', h⟩ := readStringFrom_escaped s.toList tail
    ((s.toList.flatMap escaped ++ '"' :: tail).length + 1) offset
    (by rw [List.length_append]; omega)
  refine ⟨offset', ?_⟩
  simp only [readString, h, bind, Except.bind, String.ofList_toList]

/-! ## Numbers -/

/-- The digits of a number up to what follows it. -/
theorem takeDigits_append {digits tail : List Char} (hd : ∀ c ∈ digits, isDigit c = true)
    (ht : ∀ x ∈ tail.head?, isDigit x = false) (offset : Nat) :
    takeDigits ⟨digits ++ tail, offset⟩ = (digits, ⟨tail, offset + digits.length⟩) := by
  have htake : tail.takeWhile isDigit = [] := by
    cases tail with
    | nil => rfl
    | cons x tail => simp [ht x rfl]
  have hdrop : tail.dropWhile isDigit = tail := by
    cases tail with
    | nil => rfl
    | cons x tail => simp [ht x rfl]
  rw [takeDigits, List.takeWhile_append_of_pos hd, List.dropWhile_append_of_pos hd, htake, hdrop,
    List.append_nil]

theorem le_ofDigitChars (digits : List Char) (n : Nat) : n ≤ Nat.ofDigitChars 10 digits n := by
  induction digits generalizing n with
  | nil => exact Nat.le_refl _
  | cons d digits ih =>
    rw [Nat.ofDigitChars_cons]
    exact Nat.le_trans (by omega) (ih _)

/-- Digits are gathered as long as the number that they write is not too large. -/
theorem gather_eq (limit : Nat) (digits : List Char) (n : Nat)
    (h : Nat.ofDigitChars 10 digits n ≤ limit) :
    gather limit n digits = (Nat.ofDigitChars 10 digits n, 0) := by
  induction digits generalizing n with
  | nil => rfl
  | cons d digits ih =>
    have hnext : 10 * n + (d.toNat - '0'.toNat) = n * 10 + digitValue d := by
      rw [digitValue, Nat.mul_comm]
    rw [Nat.ofDigitChars_cons, hnext] at h ⊢
    have hle : n * 10 + digitValue d ≤ limit := Nat.le_trans (le_ofDigitChars digits _) h
    rw [gather, if_pos hle, ih _ h]

theorem head_toDigits_ne_zero (n : Nat) (hn : 0 < n) : (Nat.toDigits 10 n).head? ≠ some '0' := by
  induction n using Nat.strongRecOn with
  | ind n ih =>
    by_cases hlt : n < 10
    · rw [Nat.toDigits_of_lt_base hlt]
      have hdigit : ∀ m < 10, 0 < m → m.digitChar ≠ '0' := by decide
      intro h
      exact hdigit n hlt hn (Option.some.inj h)
    · have hle : 10 ≤ n := Nat.le_of_not_lt hlt
      have hpos : 0 < n / 10 := Nat.div_pos hle (by decide)
      rw [Nat.toDigits_of_base_le (by decide) hle, List.head?_append]
      have hhead := ih (n / 10) (Nat.div_lt_self hn (by decide)) hpos
      cases hd : (Nat.toDigits 10 (n / 10)).head? with
      | none => exact absurd (List.head?_eq_none_iff.mp hd) Nat.toDigits_ne_nil
      | some d =>
        rw [hd] at hhead
        exact hhead

/-- No number but zero begins with a zero. -/
theorem not_leading_zero (n : Nat) (d : Char) (rest : List Char) :
    Nat.toDigits 10 n ≠ '0' :: d :: rest := by
  intro h
  rcases Nat.eq_zero_or_pos n with rfl | hn
  · cases h
  · exact head_toDigits_ne_zero n hn (by rw [h]; rfl)

theorem not_isDigit_of_ends {tail : List Char} (h : Ends tail) :
    ∀ x ∈ tail.head?, isDigit x = false := by
  intro x hx
  obtain rfl | rfl | rfl | hs := h x hx
  · rfl
  · rfl
  · rfl
  · simp only [isSeparator, Bool.or_eq_true, beq_iff_eq] at hs
    obtain ((rfl | rfl) | rfl) | rfl := hs <;> rfl

/-- **Every natural number of 64 bits is read back.** -/
theorem readNumber_toDigits {n : Nat} (hn : n ≤ wordLimit) {tail : List Char} (h : Ends tail)
    (offset : Nat) :
    ∃ offset', readNumber false ⟨Nat.toDigits 10 n ++ tail, offset⟩ =
      .ok (.int n, ⟨tail, offset'⟩) := by
  have hdigits : ∀ c ∈ Nat.toDigits 10 n, isDigit c = true := fun c hc =>
    Nat.isDigit_of_mem_toDigits (by decide) (by decide) hc
  have hvalue : Nat.ofDigitChars 10 (Nat.toDigits 10 n) 0 = n :=
    Nat.ofDigitChars_toDigits (by decide) (by decide)
  have hgather : gather wordLimit 0 (Nat.toDigits 10 n) = (n, 0) := by
    rw [gather_eq _ _ _ (by rw [hvalue]; exact hn), hvalue]
  refine ⟨offset + (Nat.toDigits 10 n).length, ?_⟩
  rw [readNumber, takeDigits_append hdigits (not_isDigit_of_ends h)]
  dsimp only
  split
  · next hnil => exact absurd hnil Nat.toDigits_ne_nil
  · next hzero => exact absurd hzero (not_leading_zero n _ _)
  · rw [hgather]
    dsimp only
    -- what follows is no point and no exponent
    split
    · exact absurd (h _ rfl) (by decide)
    · exact absurd (h _ rfl) (by decide)
    · exact absurd (h _ rfl) (by decide)
    · rfl

end Clearance.Json
