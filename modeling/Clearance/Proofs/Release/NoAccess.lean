import Clearance.Proofs.Marking.Extraction
import Clearance.Proofs.Marking.SimpleName
import Clearance.Proofs.Release.Decision

/-!
# Viewers without access

A viewer without access holds no name, so that an object is shown to him only if it asks for none.
Extraction leaves out blank attributes, but it keeps those that end with a slash, whose simple name
is empty as well.  An object all of whose attributes end with a slash is therefore shown, just as
an object without any.

## Main results

* `isBlocked_none_eq_false_iff`: without access every name blocks
* `isBlocked_none_iff_of_isExtracted`: what is shown to a viewer without access
-/

namespace Clearance

variable {m : Marking}

@[simp] theorem ActiveSet.holds_none (n : String) : ActiveSet.none.holds n = false := rfl

/-- Without access an object is shown exactly when it has no name at all. -/
theorem isBlocked_none_eq_false_iff :
    isBlocked m .none = false ↔ ∀ v ∈ m.all, v.simpleName = "" := by
  rw [isBlocked_eq_false_iff, Marking.allHeld_iff, Marking.releaseMet_iff]
  simp only [ActiveSet.holds_none, Bool.false_eq_true, and_false, exists_false, or_false,
    imp_false, not_not, ne_eq, Marking.all, List.forall_mem_append]

/-- The simple name of an extracted attribute is empty exactly when the attribute ends with a
slash. -/
theorem Marking.IsExtracted.simpleName_eq_empty_iff (h : m.IsExtracted) {v : Attribute}
    (hv : v ∈ m.all) : v.simpleName = "" ↔ v.text.toList.getLast? = some '/' := by
  have hne : v.text.toList ≠ [] := by
    rw [ne_eq, String.toList_eq_nil_iff]
    exact h.ne_empty hv
  rw [Attribute.simpleName_eq_empty_iff, (h.trimmed hv).trimChars_eq]
  simp [hne]

/-- **What is shown without access.**  An object that was taken from a payload or a note is shown
to a viewer without access exactly when all of its attributes end with a slash.  So being shown and
having no attributes are the same thing for the objects that have no attributes, and for those with
an attribute that does not end with a slash, and for no others. -/
theorem isBlocked_none_iff_of_isExtracted (h : m.IsExtracted) :
    (isBlocked m .none = false ↔ ∀ v ∈ m.all, v.text.toList.getLast? = some '/') ∧
      ((isBlocked m .none = false ↔ m.isUnmarked = true) ↔
        m.isUnmarked = true ∨ ∃ v ∈ m.all, v.text.toList.getLast? ≠ some '/') := by
  have shown : isBlocked m .none = false ↔ ∀ v ∈ m.all, v.text.toList.getLast? = some '/' := by
    rw [isBlocked_none_eq_false_iff]
    exact forall₂_congr fun v hv => h.simpleName_eq_empty_iff hv
  refine ⟨shown, ?_⟩
  rw [shown, Marking.isUnmarked_iff]
  -- with attributes the object is not unmarked, and it is shown only if all end with a slash
  by_cases hall : m.all = []
  · simp [hall]
  · simp [hall]

/-- A classification that does not end with a slash is withheld from a viewer without access. -/
theorem isBlocked_none_secret :
    let m := Marking.ofPayload "o" (.ofList [("attrClassification", .string "secret")])
    m.IsExtracted ∧ isBlocked m .none = true := by
  intro m
  have hm : m.IsExtracted := .inl ⟨_, _, rfl⟩
  refine ⟨hm, Bool.of_not_eq_false fun hb => ?_⟩
  have hslash := (isBlocked_none_iff_of_isExtracted hm).1.mp hb ⟨"secret"⟩ (by decide)
  revert hslash
  decide

/-- An object is shown to a viewer without access although it is classified: its only attribute
ends with a slash. -/
theorem not_isBlocked_none_trailing_slash :
    ¬ ∀ id payload, isBlocked (Marking.ofPayload id payload) .none = false ↔
      (Marking.ofPayload id payload).isUnmarked = true := by
  intro h
  have hs := h "o" (.ofList [("attrClassification", .string "secret/")])
  revert hs
  decide

end Clearance
