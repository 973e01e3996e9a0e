import Clearance.Proofs.Text.Digits
import Clearance.Proofs.Text.Segments
import Clearance.Settings.Overrides

/-!
# What variables say

The texts that take the place of settings, and what they mean: counts in decimal digits, the words
of a choice, and names between commas.  What is not of such a form says nothing.

## Main definitions

* `Overrides.Counts`, `Overrides.Chooses`, `Overrides.Lists`: what a text says
* `Overrides.IsName`, `Overrides.Pads`: names that can be written between commas, and such a text

## Main results

* `Overrides.capacity?_eq_some_iff`, `Overrides.nano?_eq_some_iff`, `Overrides.namesOf_eq_iff`: what
  is read is what the text says
* `Overrides.Pads.lists`: the names of such a text are read back
-/

namespace Clearance.Overrides

open Text

variable {raw : String} {n m : Nat} {b : Bool} {names : List String}

/-! ## Counts -/

/-- The text writes the number in decimal digits, perhaps with zeros and a plus sign in front of
them and with white space around. -/
def Counts (raw : String) (n : Nat) : Prop :=
  ∃ sign ∈ ["", "+"], ∃ zeros,
    trim raw = sign ++ String.ofList (List.replicate zeros '0') ++ toString n

/-- A text without the plus sign at its start. -/
def withoutPlus (cs : List Char) : List Char := if cs.head? = some '+' then cs.drop 1 else cs

theorem withoutPlus_plus (cs : List Char) : withoutPlus ("+".toList ++ cs) = cs := if_pos rfl

theorem withoutPlus_of_digits? {cs : List Char} (h : digits? cs = some n) : withoutPlus cs = cs := by
  obtain ⟨hne, hdigits, -⟩ := digits?_eq_some_iff_ofDigitChars.mp h
  refine if_neg fun hhead => ?_
  have hplus : Char.isDigit '+' = true := hdigits '+' (List.mem_of_mem_head? hhead)
  revert hplus
  decide

theorem counts_iff : Counts raw n ↔ digits? (withoutPlus (trimChars raw.toList)) = some n := by
  have hchars (sign : String) (zeros : Nat) :
      trim raw = sign ++ String.ofList (List.replicate zeros '0') ++ toString n ↔
        trimChars raw.toList =
          sign.toList ++ (List.replicate zeros '0' ++ Nat.toDigits 10 n) := by
    rw [← String.toList_inj, toList_trim, Nat.toString_eq_ofList_toDigits]
    simp
  simp only [Counts, List.mem_cons, List.not_mem_nil, or_false, exists_eq_or_imp, exists_eq_left,
    hchars]
  constructor
  · rintro (⟨zeros, h⟩ | ⟨zeros, h⟩)
    · have hdigits : digits? (trimChars raw.toList) = some n :=
        digits?_eq_some_iff.mpr ⟨zeros, h⟩
      rw [withoutPlus_of_digits? hdigits, hdigits]
    · rw [h, withoutPlus_plus]
      exact digits?_eq_some_iff.mpr ⟨zeros, rfl⟩
  · intro h
    obtain ⟨zeros, hzeros⟩ := digits?_eq_some_iff.mp h
    by_cases hplus : (trimChars raw.toList).head? = some '+'
    · obtain ⟨rest, hrest⟩ := List.head?_eq_some_iff.mp hplus
      rw [withoutPlus, if_pos hplus, hrest] at hzeros
      exact .inr ⟨zeros, by rw [hrest, ← hzeros]; rfl⟩
    · rw [withoutPlus, if_neg hplus] at hzeros
      exact .inl ⟨zeros, hzeros⟩

/-- A text writes one number at most. -/
theorem Counts.unique (h : Counts raw n) (h' : Counts raw m) : n = m := by
  rw [counts_iff] at h h'
  exact Option.some.inj (h.symm.trans h')

theorem Counts.not_blank (h : Counts raw n) : isBlankText raw = false := by
  refine Bool.eq_false_iff.mpr fun hblank => ?_
  have htrim : trimChars raw.toList = [] := trimChars_eq_nil_iff.mpr (List.all_eq_true.mp hblank)
  rw [counts_iff, htrim] at h
  cases h

/-- No number is written with a minus sign. -/
theorem Counts.head?_ne (h : Counts raw n) : (trim raw).toList.head? ≠ some '-' := by
  rw [toList_trim]
  intro hminus
  have hplain : withoutPlus (trimChars raw.toList) = trimChars raw.toList :=
    if_neg (by simp [hminus])
  rw [counts_iff, hplain] at h
  obtain ⟨-, hdigits, -⟩ := digits?_eq_some_iff_ofDigitChars.mp h
  exact absurd (hdigits '-' (List.mem_of_mem_head? hminus)) (by decide)

/-- **What is read as a count** is a number that the text writes, from 1 on and within 64 bits. -/
theorem capacity?_eq_some_iff {w : UInt64} :
    capacity? raw = some w ↔ Counts raw w.toNat ∧ 1 ≤ w.toNat := by
  rw [counts_iff]
  unfold capacity?
  simp only [Option.bind_eq_bind, Option.bind_eq_some_iff, Option.ite_none_right_eq_some,
    Option.some.injEq]
  constructor
  · rintro ⟨n, hn, ⟨hpos, hsize⟩, rfl⟩
    rw [UInt64.toNat_ofNat_of_lt' hsize]
    exact ⟨hn, hpos⟩
  · rintro ⟨hn, hpos⟩
    exact ⟨w.toNat, hn, ⟨hpos, w.toNat_lt⟩, UInt64.ofNat_toNat⟩

/-! ## Choices -/

/-- The words for the compact container, and for the standard one. -/
def spellings : Bool → List String
  | true => ["1", "true", "yes", "on", "nano", "nanotdf"]
  | false => ["0", "false", "no", "off", "tdf3"]

/-- The text is a word for the choice, with its letters from A to Z in any case and perhaps with
white space around. -/
def Chooses (raw : String) (b : Bool) : Prop := (trim raw).map Char.toLower ∈ spellings b

instance : Decidable (Chooses raw b) := inferInstanceAs (Decidable (_ ∈ spellings b))

theorem Chooses.not_blank (h : Chooses raw b) : isBlankText raw = false := by
  refine Bool.eq_false_iff.mpr fun hblank => ?_
  have hempty : ("" : String).map Char.toLower = "" := by simp
  rw [Chooses, (isBlankText_iff raw).mp hblank, hempty] at h
  revert h
  cases b <;> decide

/-- No word stands for both. -/
theorem not_chooses_false (h : Chooses raw true) : ¬ Chooses raw false := by
  have hdisjoint : ∀ word ∈ spellings true, word ∉ spellings false := by decide
  exact hdisjoint _ h

/-- **What is read as a choice** is the choice that the text is a word for. -/
theorem nano?_eq_some_iff : nano? raw = some b ↔ Chooses raw b := by
  have hread : nano? raw = if Chooses raw true then some true
      else if Chooses raw false then some false else none := rfl
  rw [hread]
  by_cases htrue : Chooses raw true
  · cases b <;> simp [htrue, not_chooses_false htrue]
  · by_cases hfalse : Chooses raw false <;> cases b <;> simp [htrue, hfalse]

/-! ## Names -/

/-- The names are the pieces between the commas of the text, in order, without the white space
around them and without those that are nothing else. -/
def Lists (raw : String) (names : List String) : Prop :=
  ∃ pieces, raw = joinWith "," pieces ∧ (∀ piece ∈ pieces, ',' ∉ piece.toList) ∧
    names = (pieces.map trim).filter (· ≠ "")

theorem namesOf_joinWith {pieces : List String} (h : ∀ piece ∈ pieces, ',' ∉ piece.toList) :
    namesOf (joinWith "," pieces) = (pieces.map trim).filter (· ≠ "") := by
  rcases eq_or_ne pieces [] with rfl | hne
  · rfl
  · have hsplit : splitOn ',' (joinWith "," pieces).toList = pieces.map String.toList := by
      rw [toList_joinWith, splitOn_eq_iff (by simpa using hne)]
      exact ⟨rfl, by simpa using h⟩
    have htrim : String.ofList ∘ trimChars ∘ String.toList = trim := rfl
    have hempty : (fun cs : List Char => !cs.isEmpty) ∘ trimChars ∘ String.toList =
        (fun name => decide (name ≠ "")) ∘ trim := by
      funext piece
      simp only [Function.comp_apply]
      rw [Bool.eq_iff_iff, decide_eq_true_eq, ne_eq, trim, String.ofList_eq_empty_iff,
        Bool.not_eq_true', List.isEmpty_eq_false_iff]
    rw [namesOf, hsplit, List.map_map, List.filter_map, List.map_map, htrim, List.filter_map, hempty]

/-- **What is read as names** is what the text lists. -/
theorem namesOf_eq_iff : namesOf raw = names ↔ Lists raw names := by
  constructor
  · rintro rfl
    have hraw : raw = joinWith "," ((splitOn ',' raw.toList).map String.ofList) := by
      rw [← String.toList_inj, toList_joinWith, List.map_map]
      have hid : String.toList ∘ String.ofList = id := funext fun _ => String.toList_ofList
      rw [hid, List.map_id]
      exact (join_splitOn ',' raw.toList).symm
    have hpieces : ∀ piece ∈ (splitOn ',' raw.toList).map String.ofList, ',' ∉ piece.toList := by
      intro piece hpiece
      obtain ⟨segment, hsegment, rfl⟩ := List.mem_map.mp hpiece
      rw [String.toList_ofList]
      exact not_mem_of_mem_splitOn hsegment
    refine ⟨_, hraw, hpieces, ?_⟩
    rw [← namesOf_joinWith hpieces, ← hraw]
  · rintro ⟨pieces, rfl, hpieces, rfl⟩
    exact namesOf_joinWith hpieces

/-- A name that can be written between commas. -/
structure IsName (name : String) : Prop where
  trimmed : Trimmed name.toList
  ne_empty : name ≠ ""
  comma : ',' ∉ name.toList

theorem IsName.trim_eq {name : String} (h : IsName name) : trim name = name := by
  rw [trim, h.trimmed.trimChars_eq, String.ofList_toList]

/-- The text is the names joined by commas, with any white space around each. -/
def Pads (raw : String) (names : List String) : Prop :=
  ∃ pieces, raw = joinWith "," pieces ∧
    List.Forall₂ (fun piece name => ∃ before after, isBlankText before = true ∧
      isBlankText after = true ∧ piece = before ++ name ++ after) pieces names

theorem comma_not_mem_of_isBlankText {s : String} (h : isBlankText s = true) : ',' ∉ s.toList := by
  intro hmem
  have hblank := List.all_eq_true.mp h ',' hmem
  revert hblank
  decide

/-- White space around a name is lost, and brings in no comma. -/
theorem IsName.pad {before name after : String} (h : IsName name)
    (hbefore : isBlankText before = true) (hafter : isBlankText after = true) :
    trim (before ++ name ++ after) = name ∧ ',' ∉ (before ++ name ++ after).toList := by
  constructor
  · rw [← String.toList_inj, toList_trim, String.toList_append, String.toList_append,
      trimChars_pad (List.all_eq_true.mp hbefore) (List.all_eq_true.mp hafter),
      h.trimmed.trimChars_eq]
  · simp [comma_not_mem_of_isBlankText hbefore, comma_not_mem_of_isBlankText hafter, h.comma]

/-- **Names are read back** from between commas. -/
theorem Pads.lists (h : Pads raw names) (hnames : ∀ name ∈ names, IsName name) :
    Lists raw names := by
  obtain ⟨pieces, rfl, hpads⟩ := h
  have hread : (∀ piece ∈ pieces, ',' ∉ piece.toList) ∧ pieces.map trim = names := by
    induction hpads with
    | nil => exact ⟨fun _ h => absurd h List.not_mem_nil, rfl⟩
    | cons hpad _ ih =>
      obtain ⟨before, after, hbefore, hafter, rfl⟩ := hpad
      obtain ⟨hname, hrest⟩ := List.forall_mem_cons.mp hnames
      obtain ⟨htrim, hcomma⟩ := hname.pad hbefore hafter
      obtain ⟨hcommas, htrims⟩ := ih hrest
      exact ⟨List.forall_mem_cons.mpr ⟨hcomma, hcommas⟩, by rw [List.map_cons, htrim, htrims]⟩
  refine ⟨pieces, rfl, hread.1, ?_⟩
  rw [hread.2]
  exact (List.filter_eq_self.mpr fun name hname => decide_eq_true (hnames name hname).ne_empty).symm

/-- White space alone lists nothing. -/
theorem Lists.eq_nil_of_blank (h : Lists raw names) (hraw : isBlankText raw = true) :
    names = [] := by
  rw [← namesOf_eq_iff.mpr h, namesOf, splitOn_of_not_mem (comma_not_mem_of_isBlankText hraw)]
  have hblank : trimChars raw.toList = [] := trimChars_eq_nil_iff.mpr (List.all_eq_true.mp hraw)
  simp [hblank]

end Clearance.Overrides
