import Mathlib.Algebra.Ring.Nat

/-!
# Lists in which one entry is replaced

Calls, records and callers are kept in lists, and a step replaces the entry of the one that goes on.

## Main results

* `map_set_of_eq`: what the new entry shares with the old one does not change over the list
* `sum_map_set`: a sum over the list changes by the difference
-/

namespace Clearance

variable {α β : Type} {l : List α} {i : Nat} {a b : α}

/-- What a new entry shares with the old one does not change over the list. -/
theorem map_set_of_eq {f : α → β} (h : l[i]? = some a) (hb : f b = f a) :
    (l.set i b).map f = l.map f := by
  obtain ⟨hi, rfl⟩ := List.getElem?_eq_some_iff.mp h
  have hlt : i < (l.map f).length := by rwa [List.length_map]
  have hentry : (l.map f)[i] = f l[i] := List.getElem_map f
  rw [List.map_set, hb, ← hentry]
  exact List.set_getElem_self hlt

/-- If one entry is replaced, a sum over the list changes by the difference. -/
theorem sum_map_set (f : α → Nat) (h : l[i]? = some a) (b : α) :
    ((l.set i b).map f).sum + f a = (l.map f).sum + f b := by
  induction l generalizing i with
  | nil => cases h
  | cons x l ih =>
    cases i with
    | zero =>
      obtain rfl := Option.some.inj h
      simp only [List.set_cons_zero, List.map_cons, List.sum_cons]
      omega
    | succ i =>
      have hrest := ih (i := i) h
      simp only [List.set_cons_succ, List.map_cons, List.sum_cons]
      omega

end Clearance
