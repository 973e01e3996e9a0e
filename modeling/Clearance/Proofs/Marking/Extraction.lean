import Clearance.Marking.Marking
import Clearance.Proofs.Text.Trimmed

/-!
# Extracted markings

What is taken from a payload or from a note: every attribute is a text of the payload, trimmed,
that is not blank and not a fully qualified name of a category that is not known.

## Main definitions

* `Marking.all`: the attributes of all three categories
* `Marking.attribute?`: the attribute that is taken from a text
* `Marking.IsExtracted`: the marking was taken from a payload or from a note

## Main results

* `Marking.attributes_eq`, `Marking.mem_attributes`: the attributes of a value
* `Marking.ofNote_eq`: a note is read as a payload
* `Marking.IsExtracted.trimmed`, `Marking.IsExtracted.ne_empty`: what all of them have in common
-/

namespace Clearance.Marking

variable {m : Marking} {v : Attribute}

/-- The attributes of all three categories. -/
def all (m : Marking) : List Attribute := m.classification ++ m.needToKnow ++ m.relTo

theorem isUnmarked_iff : m.isUnmarked = true ↔ m.all = [] := by
  simp [isUnmarked, all, and_assoc]

/-- The attribute that is taken from a text, if any. -/
def attribute? (s : String) : Option Attribute :=
  if Text.trim s = "" ∨ isForeign ⟨Text.trim s⟩ = true then none else some ⟨Text.trim s⟩

/-- The attributes of a value are taken from its texts one by one. -/
theorem attributes_eq (value : Option Json) :
    attributes value = (texts value).filterMap attribute? := by
  rw [attributes]
  induction texts value with
  | nil => rfl
  | cons s texts ih =>
    by_cases hblank : Text.trim s = ""
    · simpa [attribute?, hblank] using ih
    · by_cases hforeign : isForeign ⟨Text.trim s⟩ = true
      · simpa [attribute?, hblank, hforeign] using ih
      · simpa [attribute?, hblank, hforeign] using ih

/-- **The attribute of a text** is the text, trimmed, unless it is blank or the name of a category
that is not known. -/
theorem attribute?_eq_some_iff {s : String} :
    attribute? s = some v ↔ Text.trim s = v.text ∧ v.text ≠ "" ∧ isForeign v = false := by
  rw [attribute?]
  constructor
  · intro h
    split at h
    · cases h
    · next hkept =>
      obtain rfl := Option.some.inj h
      obtain ⟨hne, hforeign⟩ := not_or.mp hkept
      exact ⟨rfl, hne, Bool.eq_false_iff.mpr hforeign⟩
  · rintro ⟨htrim, hne, hforeign⟩
    simp [htrim, hne, hforeign]

/-- The attributes of a value are its texts, trimmed, without the blank ones and the names of a
category that is not known. -/
theorem mem_attributes {value : Option Json} :
    v ∈ attributes value ↔
      (∃ s ∈ texts value, Text.trim s = v.text) ∧ v.text ≠ "" ∧ isForeign v = false := by
  simp only [attributes_eq, List.mem_filterMap, attribute?_eq_some_iff]
  constructor
  · rintro ⟨s, hs, htrim, hv⟩
    exact ⟨⟨s, hs, htrim⟩, hv⟩
  · rintro ⟨⟨s, hs, htrim⟩, hv⟩
    exact ⟨s, hs, htrim, hv⟩

/-- The marking was taken from a payload or from a note. -/
def IsExtracted (m : Marking) : Prop :=
  (∃ id payload, m = ofPayload id payload) ∨ ∃ note, ofNote note = .ok m

/-- **A note is read as a payload**: its text as that of any object, with the same faults, and what
the text stands for as the payload of an object. -/
theorem ofNote_eq (note : Note) :
    ofNote note = (parseObject (note.search.getD "") "note.search").map (ofPayload note.id) := by
  obtain ⟨id, parentId, _ | text⟩ := note
  · rfl
  · simp only [ofNote, parseObject, Option.map_some, Option.getD_some]
    -- blank text has no markings at once; the empty object is found to have none
    split
    · rfl
    · cases Json.parse (Text.trimChars text.toList) with
      | error fault => rfl
      | ok v => cases hv : v.fields? <;> simp only [hv, Except.map]

/-- What is taken from a note could have been taken from a payload. -/
theorem IsExtracted.exists_payload (h : m.IsExtracted) : ∃ id payload, m = ofPayload id payload := by
  rcases h with h | ⟨note, h⟩
  · exact h
  · rw [ofNote_eq] at h
    cases hp : parseObject (note.search.getD "") "note.search" with
    | error fault =>
      -- a text that is no object gives no marking
      rw [hp] at h
      cases h
    | ok payload =>
      rw [hp] at h
      exact ⟨note.id, payload, (Except.ok.inj h).symm⟩

theorem IsExtracted.mem_attributes (h : m.IsExtracted) (hv : v ∈ m.all) :
    ∃ value, v ∈ attributes value := by
  obtain ⟨id, payload, rfl⟩ := h.exists_payload
  simp only [all, ofPayload, List.mem_append] at hv
  rcases hv with (hv | hv) | hv
  · exact ⟨_, hv⟩
  · exact ⟨_, hv⟩
  · exact ⟨_, hv⟩

/-- There is no white space at either end of an extracted attribute. -/
theorem IsExtracted.trimmed (h : m.IsExtracted) (hv : v ∈ m.all) : Text.Trimmed v.text.toList := by
  obtain ⟨value, hv⟩ := h.mem_attributes hv
  obtain ⟨⟨s, -, hs⟩, -⟩ := Marking.mem_attributes.mp hv
  rw [← hs, Text.toList_trim]
  exact Text.trimmed_trimChars _

theorem IsExtracted.ne_empty (h : m.IsExtracted) (hv : v ∈ m.all) : v.text ≠ "" := by
  obtain ⟨value, hv⟩ := h.mem_attributes hv
  exact (Marking.mem_attributes.mp hv).2.1

end Clearance.Marking
