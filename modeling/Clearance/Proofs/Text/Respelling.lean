import Mathlib.Logic.Relation
import Clearance.Marking.Attribute
import Clearance.Proofs.Text.Segments

/-!
# Spellings of a text

A text may be spelled in several ways that name the same thing: in small or capital letters, with
white space around it or around its last segment, and with another path before that segment or none.
What all these spellings have in common is the last segment, trimmed and in lower case, and texts
that have this in common are spellings of each other.  A simple name does not depend on the
spelling.

## Main definitions

* `Respelling`: one change of spelling
* `Respelled`: spellings of each other, by any changes in either direction
* `core`: the last segment of a text, trimmed and in ASCII lower case

## Main results

* `respelled_iff`: the texts that are spellings of each other
* `Respelled.simpleNameChars_eq`: they have the same simple name
-/

namespace Clearance.Text

variable {cs ds path segment before after : List Char}

/-! ## Letters of ASCII -/

/-- A character keeps its ASCII case, or is a capital letter of ASCII. -/
theorem asciiLowerOf_cases (c : Char) :
    asciiLowerOf c = c ∨
      ∃ n < 26, c = Char.ofNat (0x41 + n) ∧ asciiLowerOf c = Char.ofNat (0x61 + n) := by
  by_cases hc : 'A' ≤ c ∧ c ≤ 'Z'
  · have hlo : 0x41 ≤ c.toNat := hc.1
    have hhi : c.toNat ≤ 0x5A := hc.2
    have hn : 0x41 + (c.toNat - 0x41) = c.toNat := by omega
    have hsmall : 0x61 + (c.toNat - 0x41) = c.toNat + 32 := by omega
    refine .inr ⟨c.toNat - 0x41, by omega, ?_, ?_⟩
    · rw [hn, Char.ofNat_toNat]
    · rw [hsmall, asciiLowerOf, if_pos hc]
  · exact .inl (if_neg hc)

/-- Neither white space nor the slash has a case, and upper case is the same for both cases. -/
theorem asciiLowerOf_alike (c : Char) :
    isBlank (asciiLowerOf c) = isBlank c ∧ (asciiLowerOf c = '/' ↔ c = '/') ∧
      upperOf (asciiLowerOf c) = upperOf c := by
  have letters : ∀ n < 26,
      isBlank (Char.ofNat (0x61 + n)) = isBlank (Char.ofNat (0x41 + n)) ∧
        (Char.ofNat (0x61 + n) = '/' ↔ Char.ofNat (0x41 + n) = '/') ∧
        upperOf (Char.ofNat (0x61 + n)) = upperOf (Char.ofNat (0x41 + n)) := by decide
  rcases asciiLowerOf_cases c with h | ⟨n, hn, hc, h⟩
  · rw [h]
    exact ⟨rfl, Iff.rfl, rfl⟩
  · rw [h, hc]
    exact letters n hn

theorem upperChars_asciiLower (cs : List Char) : upperChars (asciiLower cs) = upperChars cs := by
  rw [upperChars, asciiLower, List.flatMap_map]
  exact List.flatMap_congr fun c _ => (asciiLowerOf_alike c).2.2

theorem trimChars_asciiLower (cs : List Char) :
    trimChars (asciiLower cs) = asciiLower (trimChars cs) := by
  have hblank : isBlank ∘ asciiLowerOf = isBlank := funext fun c => (asciiLowerOf_alike c).1
  simp only [trimChars, trimStart, trimEnd, asciiLower, List.dropWhile_map, ← List.map_reverse,
    hblank]

theorem lastSegment_asciiLower (cs : List Char) :
    lastSegment (asciiLower cs) = asciiLower (lastSegment cs) := by
  have hslash : (fun c => decide (c ≠ '/')) ∘ asciiLowerOf = fun c => decide (c ≠ '/') :=
    funext fun c => by simp [(asciiLowerOf_alike c).2.1]
  simp only [lastSegment, asciiLower, ← List.map_reverse, List.takeWhile_map, hslash]

/-! ## Changes of spelling -/

/-- What may stand before a last segment: nothing, or a text that ends with a slash. -/
def IsPath (path : List Char) : Prop := path = [] ∨ ∃ front, path = front ++ ['/']

/-- **One change of spelling.** -/
inductive Respelling : List Char → List Char → Prop where
  /-- The case of letters of ASCII changes. -/
  | recase {cs ds : List Char} (h : asciiLower cs = asciiLower ds) : Respelling cs ds
  /-- White space is put around the text. -/
  | pad {before after : List Char} (cs : List Char) (hbefore : Blank before)
    (hafter : Blank after) : Respelling cs (before ++ cs ++ after)
  /-- White space is put around the last segment. -/
  | padSegment {path segment before after : List Char} (hpath : IsPath path)
    (hsegment : '/' ∉ segment) (hbefore : Blank before) (hafter : Blank after) :
    Respelling (path ++ segment) (path ++ (before ++ segment ++ after))
  /-- Another path stands before the last segment, or none. -/
  | reroot {path path' segment : List Char} (hpath : IsPath path) (hpath' : IsPath path')
    (hsegment : '/' ∉ segment) : Respelling (path ++ segment) (path' ++ segment)

/-- Spellings of each other: changes of spelling lead from one to the other, in either direction. -/
def Respelled : List Char → List Char → Prop := Relation.EqvGen Respelling

/-- The last segment of a text, trimmed and in ASCII lower case. -/
def core (cs : List Char) : List Char := asciiLower (trimChars (lastSegment cs))

/-! ## What a change of spelling keeps -/

theorem Blank.slash_not_mem (h : Blank cs) : '/' ∉ cs := by
  intro hmem
  have hslash := h '/' hmem
  revert hslash
  decide

theorem lastSegment_path_append (hpath : IsPath path) (hsegment : '/' ∉ segment) :
    lastSegment (path ++ segment) = segment := by
  rcases hpath with rfl | ⟨front, rfl⟩
  · exact lastSegment_of_not_mem hsegment
  · rw [List.append_assoc, List.singleton_append, lastSegment_append_slash hsegment]

/-- A change of spelling keeps the last segment, white space and case apart. -/
theorem Respelling.core_eq (h : Respelling cs ds) : core cs = core ds := by
  cases h with
  | recase h =>
    simp only [core, ← trimChars_asciiLower, ← lastSegment_asciiLower, h]
  | pad _ hbefore hafter =>
    rw [core, core, ← trimChars_lastSegment_trimChars cs,
      ← trimChars_lastSegment_trimChars (_ ++ _), trimChars_pad hbefore hafter]
  | @padSegment _ segment before after hpath hsegment hbefore hafter =>
    have hpadded : '/' ∉ before ++ segment ++ after := by
      simp [hbefore.slash_not_mem, hafter.slash_not_mem, hsegment]
    rw [core, core, lastSegment_path_append hpath hsegment, lastSegment_path_append hpath hpadded,
      trimChars_pad hbefore hafter]
  | reroot hpath hpath' hsegment =>
    rw [core, core, lastSegment_path_append hpath hsegment, lastSegment_path_append hpath' hsegment]

/-! ## What a change of spelling does not keep -/

theorem exists_path (cs : List Char) : ∃ path, IsPath path ∧ cs = path ++ lastSegment cs := by
  by_cases hslash : '/' ∈ cs
  · obtain ⟨front, hcs⟩ := exists_path_of_slash_mem hslash
    exact ⟨front ++ ['/'], .inr ⟨front, rfl⟩, by simpa using hcs⟩
  · exact ⟨[], .inl rfl, (lastSegment_of_not_mem hslash).symm⟩

/-- Every text is spelled as its last segment, trimmed. -/
theorem respelled_trimmed (cs : List Char) : Respelled cs (trimChars (lastSegment cs)) := by
  obtain ⟨path, hpath, hcs⟩ := exists_path cs
  obtain ⟨before, after, hbefore, hafter, hsegment⟩ := exists_pad (lastSegment cs)
  have hroot : Respelling cs (lastSegment cs) := by
    have h := Respelling.reroot hpath (.inl rfl) (slash_not_mem_lastSegment cs)
    rwa [← hcs, List.nil_append] at h
  have hpad : Respelling (trimChars (lastSegment cs)) (lastSegment cs) := by
    have h := Respelling.pad (trimChars (lastSegment cs)) hbefore hafter
    rwa [← hsegment] at h
  exact .trans _ _ _ (.rel _ _ hroot) (.symm _ _ (.rel _ _ hpad))

/-- **Texts are spellings of each other** exactly when their last segments are the same, white space
and the case of letters of ASCII apart. -/
theorem respelled_iff : Respelled cs ds ↔ core cs = core ds := by
  constructor
  · intro h
    induction h with
    | rel _ _ h => exact h.core_eq
    | refl _ => rfl
    | symm _ _ _ ih => exact ih.symm
    | trans _ _ _ _ _ ih ih' => exact ih.trans ih'
  · intro h
    exact .trans _ _ _ (respelled_trimmed cs)
      (.trans _ _ _ (.rel _ _ (.recase h)) (.symm _ _ (respelled_trimmed ds)))

instance (cs ds : List Char) : Decidable (Respelled cs ds) := decidable_of_iff _ respelled_iff.symm

/-! ## Simple names -/

/-- A simple name is what all spellings have in common, in upper case. -/
theorem simpleNameChars_eq (cs : List Char) :
    Attribute.simpleNameChars cs = upperChars (core cs) := by
  rw [Attribute.simpleNameChars, trimChars_lastSegment_trimChars, core, upperChars_asciiLower]

/-- **A simple name does not depend on the spelling.** -/
theorem Respelled.simpleNameChars_eq (h : Respelled cs ds) :
    Attribute.simpleNameChars cs = Attribute.simpleNameChars ds := by
  rw [Text.simpleNameChars_eq, Text.simpleNameChars_eq, respelled_iff.mp h]

end Clearance.Text
