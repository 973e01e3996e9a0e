import Clearance.Proofs.Entitlement.Run
import Clearance.Proofs.Release.Decision

/-!
# What an author lacks

An author who selects attributes is told which of them he does not hold: each classification and
need to know that he lacks, and all the releases if he has none of them.  The report is empty just
when he could view what he writes.  It is no longer than it has to be either: further values open
the object to him exactly when they cover every required attribute of the report, and one of the
releases if these are in it.

The report speaks of attributes and a verdict of names, so an attribute with an empty name is never
reported as lacking, while it may be listed among the releases.

## Main definitions

* `Marking.lacking`: the required attributes that are not held

## Main results

* `unavailable_eq_nil_iff`: the report is empty exactly when the object is shown
* `ActiveSet.holds_full_append`: what is held with further values
* `unavailable_exact`: further values that cover the report, and no others, open the object
-/

namespace Clearance

variable {m : Marking} {a : ActiveSet} {more : List Attribute} {n : String} {v : Attribute}

namespace Marking

/-- The classifications and needs to know that are not held. -/
def lacking (m : Marking) (a : ActiveSet) : List Attribute :=
  (m.classification ++ m.needToKnow).filter fun v => v.simpleName ≠ "" && !a.holds v.simpleName

theorem mem_lacking : v ∈ m.lacking a ↔
    v ∈ m.classification ++ m.needToKnow ∧ v.simpleName ≠ "" ∧ a.holds v.simpleName = false := by
  rw [lacking, List.mem_filter]
  refine and_congr_right fun _ => ?_
  simp

/-- Nothing is lacking exactly when every required name is held. -/
theorem lacking_eq_nil_iff : m.lacking a = [] ↔ m.AllHeld a := by
  rw [List.eq_nil_iff_forall_not_mem, allHeld_iff]
  simp only [mem_lacking, not_and, Bool.not_eq_false]

end Marking

/-! ## The report -/

/-- The report: what is lacking, and all releases if none of them is held. -/
theorem unavailable_eq (m : Marking) (a : ActiveSet) :
    unavailable m a = m.lacking a ++ if lacksRelease m.relTo a then m.relTo else [] := rfl

/-- Releases are reported only where there are some. -/
theorem ne_nil_of_lacksRelease (h : lacksRelease m.relTo a = true) : m.relTo ≠ [] := by
  intro hnil
  rw [hnil] at h
  cases h

/-- **The report is empty exactly when the object is shown.** -/
theorem unavailable_eq_nil_iff : unavailable m a = [] ↔ isBlocked m a = false := by
  rw [unavailable_eq, List.append_eq_nil_iff, Marking.lacking_eq_nil_iff, isBlocked_eq_false_iff,
    ← lacksRelease_eq_false_iff]
  refine and_congr_right fun _ => ?_
  cases h : lacksRelease m.relTo a with
  | false => simp
  | true => simpa using ne_nil_of_lacksRelease h

/-! ## Further values -/

/-- With further values their names are held besides those that were held before. -/
theorem ActiveSet.holds_full_append (a : ActiveSet) (more : List Attribute) (n : String) :
    (full (.ofList (a.values ++ more))).holds n = true ↔
      a.holds n = true ∨ n ≠ "" ∧ ∃ w ∈ more, w.simpleName = n := by
  rw [holds_full_ofList, a.holds_iff, ← and_or_left]
  refine and_congr_right fun _ => ?_
  simp only [List.mem_append, or_and_right, exists_or]

/-- Further values meet what is required exactly when they cover what is lacking. -/
theorem Marking.allHeld_full_append_iff :
    m.AllHeld (.full (.ofList (a.values ++ more))) ↔
      ∀ v ∈ m.lacking a, ∃ w ∈ more, w.simpleName = v.simpleName := by
  rw [allHeld_iff]
  constructor
  · intro h v hv
    obtain ⟨hmem, hne, hnot⟩ := mem_lacking.mp hv
    -- the name was not held before, so it comes from the further values
    rcases (ActiveSet.holds_full_append a more _).mp (h v hmem hne) with hheld | ⟨-, hw⟩
    · rw [hnot] at hheld
      cases hheld
    · exact hw
  · intro h v hmem hne
    apply (ActiveSet.holds_full_append a more _).mpr
    cases hheld : a.holds v.simpleName with
    | true => exact .inl rfl
    | false => exact .inr ⟨hne, h v (mem_lacking.mpr ⟨hmem, hne, hheld⟩)⟩

/-- Further values open the releases exactly when one of them is a release, if that is lacking. -/
theorem Marking.releaseMet_full_append_iff :
    m.ReleaseMet (.full (.ofList (a.values ++ more))) ↔
      (lacksRelease m.relTo a = true →
        ∃ v ∈ m.relTo, v.simpleName ≠ "" ∧ ∃ w ∈ more, w.simpleName = v.simpleName) := by
  have hmet : m.ReleaseMet a ↔ ¬ lacksRelease m.relTo a = true := by
    rw [← lacksRelease_eq_false_iff, Bool.not_eq_true]
  constructor
  · intro h hlacks
    have hnot : ¬ m.ReleaseMet a := fun hm => hmet.mp hm hlacks
    rw [releaseMet_iff] at h hnot
    rcases h with hblank | ⟨v, hv, hne, hheld⟩
    · exact absurd (.inl hblank) hnot
    · rcases (ActiveSet.holds_full_append a more _).mp hheld with hheld | ⟨-, hw⟩
      · exact absurd (.inr ⟨v, hv, hne, hheld⟩) hnot
      · exact ⟨v, hv, hne, hw⟩
  · intro h
    rw [releaseMet_iff]
    by_cases hlacks : lacksRelease m.relTo a = true
    · obtain ⟨v, hv, hne, hw⟩ := h hlacks
      exact .inr ⟨v, hv, hne, (ActiveSet.holds_full_append a more _).mpr (.inr ⟨hne, hw⟩)⟩
    · -- what was met before is still met
      rcases releaseMet_iff.mp (hmet.mpr hlacks) with hblank | ⟨v, hv, hne, hheld⟩
      · exact .inl hblank
      · exact .inr ⟨v, hv, hne, (ActiveSet.holds_full_append a more _).mpr (.inl hheld)⟩

/-- **The report is exactly what an author lacks.**  It is empty exactly when the object is shown to
him.  It lists the classifications and needs to know that he does not hold, and then all releases
if he has none of them.  With further values the object is shown exactly when these have the names
of all classifications and needs to know in the report, and the name of a release if the releases
are in it. -/
theorem unavailable_exact (m : Marking) (a : ActiveSet) :
    (unavailable m a = [] ↔ isBlocked m a = false) ∧
    (unavailable m a = m.lacking a ++ if lacksRelease m.relTo a then m.relTo else []) ∧
    (∀ v, v ∈ m.lacking a ↔ v ∈ m.classification ++ m.needToKnow ∧ v.simpleName ≠ "" ∧
      a.holds v.simpleName = false) ∧
    ∀ more : List Attribute,
      isBlocked m (.full (.ofList (a.values ++ more))) = false ↔
        (∀ v ∈ m.lacking a, ∃ w ∈ more, w.simpleName = v.simpleName) ∧
        (lacksRelease m.relTo a = true →
          ∃ v ∈ m.relTo, v.simpleName ≠ "" ∧ ∃ w ∈ more, w.simpleName = v.simpleName) := by
  refine ⟨unavailable_eq_nil_iff, unavailable_eq m a, fun v => Marking.mem_lacking, ?_⟩
  intro more
  rw [isBlocked_eq_false_iff, Marking.allHeld_full_append_iff, Marking.releaseMet_full_append_iff]

/-- An author who holds a classification and a release of his own: he lacks a need to know and one
of the releases of his object, the first of which has an empty name.  The need to know alone does
not open the object to him; together with a release it does. -/
theorem unavailable_exact_of_needToKnow :
    let a : ActiveSet := .ofValues [⟨"https://demo.com/attr/classification/value/secret"⟩, ⟨"fra"⟩]
    let m : Marking :=
      { id := "o", classification := [⟨"SECRET"⟩], needToKnow := [⟨"int"⟩, ⟨" "⟩]
        relTo := [⟨"gbr/"⟩, ⟨"usa"⟩, ⟨"gbr"⟩] }
    let int : Attribute := ⟨"https://demo.com/attr/needtoknow/value/int"⟩
    unavailable m a = [⟨"int"⟩, ⟨"gbr/"⟩, ⟨"usa"⟩, ⟨"gbr"⟩] ∧
      isBlocked m (.full (.ofList (a.values ++ [int]))) ≠ false ∧
      isBlocked m (.full (.ofList (a.values ++ [int, ⟨"x/GBR"⟩]))) = false := by
  intro a m int
  obtain ⟨-, hreport, -, hmore⟩ := unavailable_exact m a
  have hlacking : m.lacking a = [⟨"int"⟩] := by decide
  have hlacks : lacksRelease m.relTo a = true := by decide
  rw [hlacking, hlacks] at hreport hmore
  refine ⟨hreport, ?_, (hmore _).mpr ⟨by decide, fun _ => by decide⟩⟩
  intro h
  have hrelease := ((hmore _).mp h).2 rfl
  revert hrelease
  decide

end Clearance
