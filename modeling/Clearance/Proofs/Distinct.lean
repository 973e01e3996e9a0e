import Mathlib.Data.List.Basic
import Mathlib.Data.List.Induction
import Clearance.Distinct

/-!
# The order of first appearance

Gathering a list without repetition keeps its elements in the order in which they first came.
Which elements there are and this order determine the gathered list, so they are all that there is
to say about it.

## Main definitions

* `Distinct.FirstSeen`: the elements of a list with some property, as they were first seen

## Main results

* `Distinct.FirstSeen.eq`, `Distinct.FirstSeen.perm`: the elements and their order determine a list
* `Distinct.firstSeen_ofList`, `Distinct.firstSeen_ofList_filter`: what is gathered
* `Distinct.ofList_append_of_nodup`: what is gathered from two lists without repetition
* `Distinct.ofList_filterMap_ofList`: what is gathered of the images of what was gathered
-/

namespace Clearance.Distinct

variable {α β : Type} [DecidableEq α] [DecidableEq β] {p q : α → Prop}
  {l xs xs' ys ys' : List α} {x : α}

/-! ## What was first seen when -/

/-- A list consists of the elements of another list that have a property, each of them once, in the
order in which they were first seen there. -/
structure FirstSeen (p : α → Prop) (xs ys : List α) : Prop where
  mem_iff : ∀ x, x ∈ ys ↔ x ∈ xs ∧ p x
  ordered : ys.Pairwise fun x y => xs.idxOf x < xs.idxOf y

namespace FirstSeen

theorem nodup (h : FirstSeen p xs ys) : ys.Nodup := by
  apply h.ordered.imp
  rintro x y hlt rfl
  exact Nat.lt_irrefl _ hlt

/-- Lists with the same elements differ in their order at most. -/
theorem perm (h : FirstSeen p xs ys) (h' : FirstSeen q xs' ys')
    (hmem : ∀ x, x ∈ xs ∧ p x ↔ x ∈ xs' ∧ q x) : ys.Perm ys' := by
  rw [List.perm_ext_iff_of_nodup h.nodup h'.nodup]
  intro x
  rw [h.mem_iff, h'.mem_iff]
  exact hmem x

/-- **There is only one list of what was first seen.** -/
theorem eq (h : FirstSeen p xs ys) (h' : FirstSeen p xs ys') : ys = ys' := by
  have hperm : ys.Perm ys' := h.perm h' fun _ => Iff.rfl
  refine hperm.eq_of_pairwise ?_ h.ordered h'.ordered
  intro x y _ _ hxy hyx
  exact absurd hyx (Nat.lt_asymm hxy)

theorem congr (h : FirstSeen p xs ys) (hpq : ∀ x ∈ xs, p x ↔ q x) : FirstSeen q xs ys where
  mem_iff x := by
    rw [h.mem_iff]
    exact and_congr_right (hpq x)
  ordered := h.ordered

/-- A choice among what was first seen. -/
theorem filter (h : FirstSeen p xs ys) (r : α → Bool) :
    FirstSeen (fun x => p x ∧ r x = true) xs (ys.filter r) where
  mem_iff x := by rw [List.mem_filter, h.mem_iff, and_assoc]
  ordered := h.ordered.filter r

/-- What was seen before stays where it is when something is seen at the end. -/
theorem pairwise_snoc (h : FirstSeen p xs ys) (x : α) :
    ys.Pairwise fun y z => (xs ++ [x]).idxOf y < (xs ++ [x]).idxOf z := by
  refine h.ordered.imp_of_mem ?_
  intro y z hy hz hlt
  rw [List.idxOf_append_of_mem ((h.mem_iff y).mp hy).1,
    List.idxOf_append_of_mem ((h.mem_iff z).mp hz).1]
  exact hlt

end FirstSeen

/-! ## What is gathered -/

theorem ofList_snoc (xs : List α) (x : α) : ofList (xs ++ [x]) = add (ofList xs) x :=
  addAll_append [] xs [x]

/-- **Gathering keeps the order in which the elements were first seen.** -/
theorem firstSeen_ofList (xs : List α) : FirstSeen (fun _ => True) xs (ofList xs) := by
  refine ⟨fun x => by rw [mem_ofList, and_true], ?_⟩
  induction xs using List.reverseRecOn with
  | nil => exact List.Pairwise.nil
  | append_singleton xs x ih =>
    have hxs : FirstSeen (fun _ => True) xs (ofList xs) :=
      ⟨fun x => by rw [mem_ofList, and_true], ih⟩
    rw [ofList_snoc]
    by_cases hx : x ∈ ofList xs
    · rw [add_of_mem hx]
      exact hxs.pairwise_snoc x
    · rw [add_of_not_mem hx, List.pairwise_append]
      refine ⟨hxs.pairwise_snoc x, List.pairwise_singleton _ _, ?_⟩
      -- a new element is first seen at the very end
      intro y hy z hz
      obtain rfl := List.mem_singleton.mp hz
      rw [mem_ofList] at hx hy
      rw [List.idxOf_append_of_mem hy, List.idxOf_append_of_notMem hx]
      exact Nat.lt_of_lt_of_le (List.idxOf_lt_length_of_mem hy) (Nat.le_add_right _ _)

theorem filter_add (r : α → Bool) (l : List α) (x : α) :
    (add l x).filter r = if r x then add (l.filter r) x else l.filter r := by
  unfold add
  by_cases hx : x ∈ l
  · cases hr : r x <;> simp [hx, hr]
  · cases hr : r x <;> simp [hx, hr]

theorem filter_addAll (r : α → Bool) (l xs : List α) :
    (addAll l xs).filter r = addAll (l.filter r) (xs.filter r) := by
  induction xs generalizing l with
  | nil => rfl
  | cons x xs ih =>
    rw [addAll_cons, ih, filter_add, List.filter_cons]
    cases r x <;> rfl

/-- What is gathered from a choice of the elements is a choice of what is gathered. -/
theorem firstSeen_ofList_filter (r : α → Bool) (xs : List α) :
    FirstSeen (fun x => r x = true) xs (ofList (xs.filter r)) := by
  have hfilter : ofList (xs.filter r) = (ofList xs).filter r := (filter_addAll r [] xs).symm
  rw [hfilter]
  exact ((firstSeen_ofList xs).filter r).congr fun x _ => by rw [true_and]

/-- Of a list without repetition, what was not there is added. -/
theorem addAll_eq_append (h : xs.Nodup) : addAll l xs = l ++ xs.filter fun x => x ∉ l := by
  induction xs generalizing l with
  | nil => simp
  | cons x xs ih =>
    obtain ⟨hx, hxs⟩ := List.nodup_cons.mp h
    rw [addAll_cons, ih hxs, List.filter_cons]
    by_cases hl : x ∈ l
    · simp [add_of_mem hl, hl]
    · -- the element just added does not come again
      have hsame : (xs.filter fun y => y ∉ l ++ [x]) = xs.filter fun y => y ∉ l := by
        refine List.filter_congr fun y hy => ?_
        have hne : y ≠ x := fun he => hx (he ▸ hy)
        simp [hne]
      rw [add_of_not_mem hl, hsame]
      simp [hl]

/-- **What is gathered from two lists without repetition** is the first one and what is new in the
second one. -/
theorem ofList_append_of_nodup (h : xs.Nodup) (h' : ys.Nodup) :
    ofList (xs ++ ys) = xs ++ ys.filter fun y => y ∉ xs := by
  rw [ofList, addAll_append, addAll_eq_append h']
  have hxs : addAll [] xs = xs := ofList_eq_self_iff.mpr h
  rw [hxs]

/-- **Gathering twice**: what is gathered of the images of elements does not depend on whether the
elements were gathered before. -/
theorem ofList_filterMap_ofList (g : α → Option β) (xs : List α) :
    ofList ((ofList xs).filterMap g) = ofList (xs.filterMap g) := by
  induction xs using List.reverseRecOn with
  | nil => rfl
  | append_singleton xs x ih =>
    rw [ofList_snoc, List.filterMap_append]
    by_cases hx : x ∈ ofList xs
    · -- an element that came before has an image that came before
      rw [add_of_mem hx, ih]
      cases hg : g x with
      | none => rw [List.filterMap_cons_none hg, List.filterMap_nil, List.append_nil]
      | some y =>
        have hy : y ∈ ofList (xs.filterMap g) :=
          mem_ofList.mpr (List.mem_filterMap.mpr ⟨x, mem_ofList.mp hx, hg⟩)
        rw [List.filterMap_cons_some hg, List.filterMap_nil, ofList_snoc, add_of_mem hy]
    · rw [add_of_not_mem hx, List.filterMap_append, ofList, addAll_append, ← ofList, ih, ofList,
        ofList, addAll_append]

end Clearance.Distinct
