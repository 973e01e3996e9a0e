/-!
# Lists without repetition

Lists that serve as sets and remember the order in which their elements first came.

## Main definitions

* `Distinct.add`, `Distinct.addAll`: one more element, and several.
* `Distinct.ofList`: the elements of a list, each where it first occurs.

Joining is associative (`addAll_addAll`), so sets may be gathered in groups and the groups joined.
-/

namespace Clearance.Distinct

variable {α : Type} [DecidableEq α]

/-- One more element, at the end unless it is there already. -/
def add (l : List α) (x : α) : List α := if x ∈ l then l else l ++ [x]

/-- The elements of a second list after those of the first. -/
def addAll (l xs : List α) : List α := xs.foldl add l

/-- The elements of a list, each where it first occurs. -/
def ofList (xs : List α) : List α := addAll [] xs

@[simp] theorem mem_add {l : List α} {x y : α} : y ∈ add l x ↔ y ∈ l ∨ y = x := by
  unfold add
  split
  · next h => exact ⟨.inl, fun h' => h'.elim id fun e => e ▸ h⟩
  · simp

theorem nodup_add {l : List α} (h : l.Nodup) (x : α) : (add l x).Nodup := by
  unfold add
  split
  · exact h
  · next hx =>
    exact List.nodup_append.mpr
      ⟨h, by simp, fun a ha b hb => by
        simp only [List.mem_singleton] at hb
        exact fun hab => hx (hb ▸ hab ▸ ha)⟩

@[simp] theorem addAll_nil (l : List α) : addAll l [] = l := rfl

@[simp] theorem addAll_cons (l : List α) (x : α) (xs : List α) :
    addAll l (x :: xs) = addAll (add l x) xs := rfl

theorem addAll_append (l xs ys : List α) : addAll l (xs ++ ys) = addAll (addAll l xs) ys := by
  simp [addAll, List.foldl_append]

@[simp] theorem mem_addAll {l xs : List α} {y : α} : y ∈ addAll l xs ↔ y ∈ l ∨ y ∈ xs := by
  induction xs generalizing l with
  | nil => simp
  | cons x xs ih => simp [ih, or_assoc]

theorem nodup_addAll {l : List α} (h : l.Nodup) (xs : List α) : (addAll l xs).Nodup := by
  induction xs generalizing l with
  | nil => exact h
  | cons x xs ih => exact ih (nodup_add h x)

theorem add_of_mem {l : List α} {x : α} (h : x ∈ l) : add l x = l := by simp [add, h]

theorem add_of_not_mem {l : List α} {x : α} (h : x ∉ l) : add l x = l ++ [x] := by simp [add, h]

/-- Joining is associative. -/
theorem addAll_addAll (l xs ys : List α) : addAll l (addAll xs ys) = addAll (addAll l xs) ys := by
  induction ys generalizing xs with
  | nil => rfl
  | cons y ys ih =>
    rw [addAll_cons, ih, addAll_cons]
    congr 1
    by_cases h : y ∈ xs
    · rw [add_of_mem h, add_of_mem (mem_addAll.mpr (.inr h))]
    · rw [add_of_not_mem h, addAll_append]; rfl

@[simp] theorem mem_ofList {xs : List α} {y : α} : y ∈ ofList xs ↔ y ∈ xs := by simp [ofList]

theorem nodup_ofList (xs : List α) : (ofList xs).Nodup := nodup_addAll (by simp) xs

/-- What does not repeat itself is added as it is. -/
theorem addAll_of_nodup {l xs : List α} (h : (l ++ xs).Nodup) : addAll l xs = l ++ xs := by
  induction xs generalizing l with
  | nil => simp
  | cons x xs ih =>
    have hx : x ∉ l := fun hl => (List.nodup_append.mp h).2.2 x hl x List.mem_cons_self rfl
    have hsplit : l ++ x :: xs = l ++ [x] ++ xs := by simp
    rw [addAll_cons, add_of_not_mem hx, ih (hsplit ▸ h), hsplit]

/-- Only a list without repetition is left as it is. -/
theorem ofList_eq_self_iff {xs : List α} : ofList xs = xs ↔ xs.Nodup :=
  ⟨fun h => h ▸ nodup_ofList xs, fun h => addAll_of_nodup (l := []) h⟩

end Clearance.Distinct
