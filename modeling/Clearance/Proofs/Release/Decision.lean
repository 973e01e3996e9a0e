import Mathlib.Logic.Basic
import Mathlib.Tactic.ByContra
import Clearance.Release

/-!
# The decision on an object

An object is shown exactly when every name that it requires is held, and one of its releases if it
lists any.  A missing name comes before a missing release, and the verdict lists what it is about:
the names that are not held, or all the releases.  Attributes with an empty name ask for nothing.

## Main definitions

* `Marking.AllHeld`, `Marking.ReleaseMet`: the two conditions of a release

## Main results

* `explain_cases`: the three verdicts, each with its condition
* `explain_eq_allowed_iff`, `isBlocked_eq_false_iff`: when an object is shown
* `explain_exact`: each verdict with its names
-/

namespace Clearance

variable {m : Marking} {a : ActiveSet}

namespace Marking

/-- Every name that the marking requires is held. -/
def AllHeld (m : Marking) (a : ActiveSet) : Prop := ∀ n ∈ m.required, a.holds n = true

/-- One of the releases is held, unless none is listed. -/
def ReleaseMet (m : Marking) (a : ActiveSet) : Prop :=
  m.released = [] ∨ ∃ n ∈ m.released, a.holds n = true

theorem required_eq (m : Marking) :
    m.required = Attribute.names (m.classification ++ m.needToKnow) := by
  simp [required, Attribute.names]

theorem mem_required {n : String} :
    n ∈ m.required ↔ n ≠ "" ∧ ∃ v ∈ m.classification ++ m.needToKnow, v.simpleName = n := by
  rw [required_eq, Attribute.mem_names]

theorem mem_released {n : String} :
    n ∈ m.released ↔ n ≠ "" ∧ ∃ v ∈ m.relTo, v.simpleName = n :=
  Attribute.mem_names

/-- The first condition, attribute by attribute. -/
theorem allHeld_iff :
    m.AllHeld a ↔ ∀ v ∈ m.classification ++ m.needToKnow,
      v.simpleName ≠ "" → a.holds v.simpleName = true := by
  refine ⟨fun h v hv hne => h _ (mem_required.mpr ⟨hne, v, hv, rfl⟩), fun h n hn => ?_⟩
  obtain ⟨hne, v, hv, rfl⟩ := mem_required.mp hn
  exact h v hv hne

theorem released_eq_nil_iff : m.released = [] ↔ ∀ v ∈ m.relTo, v.simpleName = "" := by
  rw [List.eq_nil_iff_forall_not_mem]
  refine ⟨fun h v hv => ?_, fun h n hn => ?_⟩
  · by_contra hne
    exact h v.simpleName (mem_released.mpr ⟨hne, v, hv, rfl⟩)
  · obtain ⟨hne, v, hv, rfl⟩ := mem_released.mp hn
    exact hne (h v hv)

/-- The second condition, attribute by attribute. -/
theorem releaseMet_iff :
    m.ReleaseMet a ↔ (∀ v ∈ m.relTo, v.simpleName = "") ∨
      ∃ v ∈ m.relTo, v.simpleName ≠ "" ∧ a.holds v.simpleName = true := by
  rw [ReleaseMet, released_eq_nil_iff]
  refine or_congr_right ⟨?_, ?_⟩
  · rintro ⟨n, hn, hh⟩
    obtain ⟨hne, v, hv, rfl⟩ := mem_released.mp hn
    exact ⟨v, hv, hne, hh⟩
  · rintro ⟨v, hv, hne, hh⟩
    exact ⟨v.simpleName, mem_released.mpr ⟨hne, v, hv, rfl⟩, hh⟩

/-- The names that are missing are listed exactly when some are. -/
theorem missing_eq_nil_iff : (m.required.filter fun n => !a.holds n) = [] ↔ m.AllHeld a := by
  simp [List.filter_eq_nil_iff, AllHeld]

end Marking

theorem lacksRelease_eq_false_iff : lacksRelease m.relTo a = false ↔ m.ReleaseMet a := by
  rw [lacksRelease, Marking.ReleaseMet, Marking.released]
  simp only [Bool.and_eq_false_iff, Bool.not_eq_false', List.isEmpty_iff, List.any_eq_true]

/-! ## The verdicts -/

/-- **The three verdicts**, each with its condition. -/
theorem explain_cases (m : Marking) (a : ActiveSet) :
    explain m a = .allowed ∧ m.AllHeld a ∧ m.ReleaseMet a ∨
      explain m a = .missingAllOf (m.required.filter fun n => !a.holds n) ∧ ¬ m.AllHeld a ∨
        explain m a = .noRelToOverlap m.released ∧ m.AllHeld a ∧ ¬ m.ReleaseMet a := by
  unfold explain
  split
  · next hm =>
    -- no name is missing, so that the releases decide
    have hall : m.AllHeld a := Marking.missing_eq_nil_iff.mp hm
    cases hl : lacksRelease m.relTo a with
    | false => exact .inl ⟨rfl, hall, lacksRelease_eq_false_iff.mp hl⟩
    | true =>
      refine .inr (.inr ⟨rfl, hall, fun h => ?_⟩)
      rw [lacksRelease_eq_false_iff.mpr h] at hl
      cases hl
  · next hm => exact .inr (.inl ⟨rfl, fun h => hm (Marking.missing_eq_nil_iff.mpr h)⟩)

theorem explain_eq_allowed_iff : explain m a = .allowed ↔ m.AllHeld a ∧ m.ReleaseMet a := by
  rcases explain_cases m a with ⟨h, hc⟩ | ⟨h, hc⟩ | ⟨h, -, hc⟩
  · simp [h, hc]
  · simp [h, hc]
  · simp [h, hc]

theorem isBlocked_eq_false_iff : isBlocked m a = false ↔ m.AllHeld a ∧ m.ReleaseMet a := by
  rw [← explain_eq_allowed_iff, isBlocked]
  cases explain m a <;> simp [Verdict.isBlocked]

theorem explain_eq_missingAllOf_iff {missing : List String} :
    explain m a = .missingAllOf missing ↔
      ¬ m.AllHeld a ∧ missing = m.required.filter fun n => !a.holds n := by
  rcases explain_cases m a with ⟨h, hc, -⟩ | ⟨h, hc⟩ | ⟨h, hc, -⟩
  · simp [h, hc]
  · simp [h, hc, eq_comm]
  · simp [h, hc]

theorem explain_eq_noRelToOverlap_iff {relTo : List String} :
    explain m a = .noRelToOverlap relTo ↔
      m.AllHeld a ∧ ¬ m.ReleaseMet a ∧ relTo = m.released := by
  rcases explain_cases m a with ⟨h, -, hc⟩ | ⟨h, hc⟩ | ⟨h, hc, hc'⟩
  · simp [h, hc]
  · simp [h, hc]
  · simp [h, hc, hc', eq_comm]

theorem explain_ne_unreadable (m : Marking) (a : ActiveSet) (reason : String) :
    explain m a ≠ .unreadable reason := by
  rcases explain_cases m a with ⟨h, -⟩ | ⟨h, -⟩ | ⟨h, -⟩ <;> rw [h] <;> nofun

/-- A verdict rests on the attributes alone, not on the name of the object. -/
theorem explain_congr {m' : Marking} (hc : m'.classification = m.classification)
    (hn : m'.needToKnow = m.needToKnow) (hr : m'.relTo = m.relTo) :
    explain m' a = explain m a := by
  simp only [explain, Marking.required, Marking.released, hc, hn, hr]

/-- An object without attributes is shown. -/
theorem explain_unmarked (id : String) (a : ActiveSet) : explain { id } a = .allowed := rfl

/-- **The decision is exact.**  An object is shown exactly when every name of its classifications
and needs to know that is not empty is held, and one of its releases that are not empty if there
are any.  Missing names come first: they are listed in the order of the object, repetitions
included.  Else all releases are listed when there are some and none is held.  An object is never
unreadable. -/
theorem explain_exact (m : Marking) (a : ActiveSet) :
    (isBlocked m a = false ↔
      (∀ v ∈ m.classification ++ m.needToKnow, v.simpleName ≠ "" → a.holds v.simpleName = true) ∧
        ((∀ v ∈ m.relTo, v.simpleName = "") ∨
          ∃ v ∈ m.relTo, v.simpleName ≠ "" ∧ a.holds v.simpleName = true)) ∧
    (∀ missing, explain m a = .missingAllOf missing ↔
      (∃ v ∈ m.classification ++ m.needToKnow,
        v.simpleName ≠ "" ∧ a.holds v.simpleName = false) ∧
      missing = ((m.classification ++ m.needToKnow).map Attribute.simpleName).filter fun n =>
        n ≠ "" ∧ a.holds n = false) ∧
    (∀ relTo, explain m a = .noRelToOverlap relTo ↔
      (∀ v ∈ m.classification ++ m.needToKnow, v.simpleName ≠ "" → a.holds v.simpleName = true) ∧
      ((∃ v ∈ m.relTo, v.simpleName ≠ "") ∧
        ∀ v ∈ m.relTo, v.simpleName ≠ "" → a.holds v.simpleName = false) ∧
      relTo = (m.relTo.map Attribute.simpleName).filter fun n => n ≠ "") ∧
    ∀ reason, explain m a ≠ .unreadable reason := by
  refine ⟨?_, fun missing => ?_, fun relTo => ?_, explain_ne_unreadable m a⟩
  · rw [isBlocked_eq_false_iff, Marking.allHeld_iff, Marking.releaseMet_iff]
  · -- empty names are dropped before the held ones are: here both go at once
    have hlist : (m.required.filter fun n => !a.holds n) =
        ((m.classification ++ m.needToKnow).map Attribute.simpleName).filter fun n =>
          n ≠ "" ∧ a.holds n = false := by
      rw [Marking.required_eq, Attribute.names, List.filter_filter]
      refine List.filter_congr fun n _ => ?_
      cases a.holds n <;> simp
    rw [explain_eq_missingAllOf_iff, Marking.allHeld_iff, hlist]
    refine and_congr_left' ?_
    simp only [not_forall, exists_prop, Bool.not_eq_true]
  · rw [explain_eq_noRelToOverlap_iff, Marking.allHeld_iff, Marking.releaseMet_iff]
    refine and_congr_right' (and_congr_left' ?_)
    simp only [not_or, not_forall, exists_prop, not_exists, not_and, Bool.not_eq_true, ne_eq]

end Clearance
