import Mathlib.Data.List.DropRight
import Clearance.Text.Blank
import Clearance.Text.Case
import Clearance.Text.Segments

/-!
# Trimmed texts

A text is trimmed when it neither begins nor ends with white space.  Trimming leads there and
leaves such a text as it is.  The last segment of a trimmed text is empty exactly when the text
ends with a slash: otherwise both have the same last character, which is not white space.

## Main definitions

* `Text.Trimmed`: no white space at either end

## Main results

* `Text.trimmed_trimChars`, `Text.Trimmed.trimChars_eq`: trimming is idempotent
* `Text.Trimmed.trimChars_lastSegment_eq_nil_iff`: when nothing follows the last slash
* `Text.upperChars_eq_nil_iff`: no character disappears in upper case
-/

namespace Clearance.Text

variable {cs : List Char}

/-- There is no white space at either end. -/
structure Trimmed (cs : List Char) : Prop where
  head : ∀ c ∈ cs.head?, isBlank c = false
  last : ∀ c ∈ cs.getLast?, isBlank c = false

/-! ## Trimming -/

theorem trimEnd_eq_rdropWhile (cs : List Char) : trimEnd cs = cs.rdropWhile isBlank := rfl

theorem trimEnd_eq_nil_iff : trimEnd cs = [] ↔ ∀ c ∈ cs, isBlank c = true := by
  rw [trimEnd_eq_rdropWhile, List.rdropWhile_eq_nil_iff]

theorem lastSegment_eq_rtakeWhile (cs : List Char) : lastSegment cs = cs.rtakeWhile (· ≠ '/') := rfl

theorem trimChars_eq_nil_iff : trimChars cs = [] ↔ ∀ c ∈ cs, isBlank c = true := by
  rw [trimChars, trimEnd_eq_nil_iff, trimStart]
  refine ⟨fun h c hc => ?_, fun h c hc => h c ((List.dropWhile_sublist _).mem hc)⟩
  -- a character is either among those dropped, all of them blank, or among those left
  rw [← List.takeWhile_append_dropWhile (p := isBlank) (l := cs), List.mem_append] at hc
  rcases hc with hc | hc
  · exact List.mem_takeWhile_imp hc
  · exact h c hc

theorem isBlankText_iff (s : String) : isBlankText s = true ↔ trim s = "" := by
  rw [isBlankText, List.all_eq_true, ← trimChars_eq_nil_iff, trim, String.ofList_eq_empty_iff]

theorem Trimmed.trimChars_eq (h : Trimmed cs) : trimChars cs = cs := by
  have hstart : trimStart cs = cs := by
    cases cs with
    | nil => rfl
    | cons c rest => simp [trimStart, h.head c rfl]
  rw [trimChars, hstart, trimEnd_eq_rdropWhile, List.rdropWhile_eq_self_iff]
  intro hne
  simp [h.last _ (List.getLast?_eq_some_getLast hne)]

theorem trimmed_trimChars (cs : List Char) : Trimmed (trimChars cs) where
  head c hc := by
    -- what is left at the end is a beginning of what was left at the start
    obtain ⟨rest, hr⟩ : trimChars cs <+: trimStart cs := List.rdropWhile_prefix isBlank _
    have hhead : (trimStart cs).head? = some c := by
      rw [← hr, List.head?_append, Option.mem_def.mp hc]
      rfl
    have hblank := List.head?_dropWhile_not isBlank cs
    rw [← trimStart, hhead] at hblank
    exact hblank
  last c hc := by
    have hne : trimChars cs ≠ [] := by
      intro he
      rw [he] at hc
      cases hc
    have hblank := List.rdropWhile_last_not isBlank (trimStart cs) hne
    rw [List.getLast?_eq_some_getLast hne] at hc
    rw [← Option.some.inj hc]
    exact Bool.eq_false_iff.mpr hblank

theorem trimmed_iff : Trimmed cs ↔ trimChars cs = cs :=
  ⟨Trimmed.trimChars_eq, fun h => h ▸ trimmed_trimChars cs⟩

/-- Trimming twice is trimming once. -/
@[simp] theorem trimChars_trimChars (cs : List Char) : trimChars (trimChars cs) = trimChars cs :=
  (trimmed_trimChars cs).trimChars_eq

theorem mem_of_mem_trimChars {c : Char} (h : c ∈ trimChars cs) : c ∈ cs :=
  (List.dropWhile_sublist _).mem ((List.rdropWhile_prefix isBlank _).mem h)

/-! ## The last segment -/

theorem slash_not_mem_lastSegment (cs : List Char) : '/' ∉ lastSegment cs := by
  intro hmem
  rw [lastSegment_eq_rtakeWhile] at hmem
  simpa using List.mem_rtakeWhile_imp hmem

theorem lastSegment_eq_nil_iff : lastSegment cs = [] ↔ cs = [] ∨ cs.getLast? = some '/' := by
  rw [lastSegment_eq_rtakeWhile, List.rtakeWhile_eq_nil_iff]
  by_cases hne : cs = []
  · simp [hne]
  · rw [List.getLast?_eq_some_getLast hne]
    simp [hne]

/-- **Nothing but white space follows the last slash** of a trimmed text exactly when it is empty
or ends with that slash. -/
theorem Trimmed.trimChars_lastSegment_eq_nil_iff (h : Trimmed cs) :
    trimChars (lastSegment cs) = [] ↔ cs = [] ∨ cs.getLast? = some '/' := by
  rw [← lastSegment_eq_nil_iff]
  refine ⟨fun hb => ?_, fun he => by rw [he]; rfl⟩
  by_contra hne
  -- the last character of the segment is the last one of the text
  have hsuffix : lastSegment cs <:+ cs := List.rtakeWhile_suffix _ _
  have hlast : (lastSegment cs).getLast hne ∈ cs.getLast? := by
    rw [hsuffix.getLast hne]
    exact List.getLast?_eq_some_getLast _
  have hblank := trimChars_eq_nil_iff.mp hb _ (List.getLast_mem hne)
  rw [h.last _ hlast] at hblank
  cases hblank

/-! ## Upper case -/

theorem upperOf_ne_nil (c : Char) : upperOf c ≠ [] := by
  -- the only characters whose upper case is read from a table of lists
  have expansions : ∀ e ∈ upperExpansions, e.2 ≠ [] := by decide
  unfold upperOf
  split
  · simp
  · split
    · simp
    · split
      · next ns hl =>
        obtain ⟨front, back, he, -⟩ := List.lookup_eq_some_iff.mp hl
        have hmem : (c.toNat, ns) ∈ upperExpansions := he ▸ by simp
        simpa using expansions _ hmem
      · simp

/-- No character disappears in upper case. -/
theorem upperChars_eq_nil_iff : upperChars cs = [] ↔ cs = [] := by
  cases cs with
  | nil => simp
  | cons c rest => simp [upperChars, upperOf_ne_nil]

end Clearance.Text
