import Mathlib.Data.List.Nodup
import Clearance.Json.Basic

/-!
# Keyed lists

A list in order of its keys has every key at most once, so it is what looking up its keys tells:
its entries are the values that are found, and two lists in which the same is found are equal.

## Main results

* `Keyed.Sorted.mem_iff`: an entry is a value that is found
* `Keyed.Sorted.ext`: what is found determines a list in order
* `Keyed.find?_foldl_insert`: what is found after several values were set
* `Keyed.Sorted.sort_eq`: sorting leaves a list in order as it is
* `Keyed.mem_sort`: sorting loses no entry where no key comes twice
-/

namespace Clearance.Keyed

variable {α : Type} {l l' : List (String × α)} {k : String} {v : α} {e : String × α}

theorem eq_or_mem_of_mem_insert (h : e ∈ insert k v l) : e = (k, v) ∨ e ∈ l := by
  induction l with
  | nil => exact .inl (List.mem_singleton.mp h)
  | cons a rest ih =>
    obtain ⟨k', v'⟩ := a
    unfold insert at h
    split at h
    · exact List.mem_cons.mp h
    · split at h
      · rcases List.mem_cons.mp h with h | h
        · exact .inl h
        · exact .inr (List.mem_cons_of_mem _ h)
      · rcases List.mem_cons.mp h with h | h
        · exact .inr (h ▸ List.mem_cons_self)
        · rcases ih h with h | h
          · exact .inl h
          · exact .inr (List.mem_cons_of_mem _ h)

theorem mem_of_find? (h : find? k l = some v) : (k, v) ∈ l := by
  obtain ⟨⟨k', v'⟩, hf, rfl⟩ := Option.map_eq_some_iff.mp h
  obtain rfl : k' = k := by simpa using List.find?_some hf
  exact List.mem_of_find?_eq_some hf

theorem mem_keys_iff : k ∈ l.map Prod.fst ↔ ∃ v, find? k l = some v := by
  constructor
  · intro hk
    rw [← Option.isSome_iff_exists, find?, Option.isSome_map, List.find?_isSome]
    obtain ⟨e, he, rfl⟩ := List.mem_map.mp hk
    exact ⟨e, he, by simp⟩
  · rintro ⟨v, hv⟩
    exact List.mem_map.mpr ⟨(k, v), mem_of_find? hv, rfl⟩

theorem find?_cons (k : String) (e : String × α) (l : List (String × α)) :
    find? k (e :: l) = if e.1 = k then some e.2 else find? k l := by
  rw [find?, List.find?_cons, find?]
  by_cases h : e.1 = k <;> simp [h]

/-! ## Lists in order -/

namespace Sorted

theorem nodup_keys (h : Sorted l) : (l.map Prod.fst).Nodup := by
  rw [List.nodup_iff_pairwise_ne, List.pairwise_map]
  refine List.Pairwise.imp ?_ h
  intro e e' hlt heq
  rw [heq] at hlt
  exact String.lt_irrefl _ hlt

/-- **An entry of a list in order** is the value that is found for its key. -/
theorem mem_iff (h : Sorted l) : (k, v) ∈ l ↔ find? k l = some v := by
  refine ⟨fun hmem => ?_, mem_of_find?⟩
  induction l with
  | nil => cases hmem
  | cons e rest ih =>
    obtain ⟨hhead, hrest⟩ := List.pairwise_cons.mp h
    rw [find?_cons]
    obtain rfl | hmem := List.mem_cons.mp hmem
    · rw [if_pos rfl]
    · -- the first key is below all others
      have hne : e.1 ≠ k := by
        rintro rfl
        exact String.lt_irrefl _ (hhead (e.1, v) hmem)
      rw [if_neg hne, ih hrest hmem]

/-- **Lists in order are equal** if the same is found in them. -/
theorem ext (h : Sorted l) (h' : Sorted l') (hfind : ∀ k, find? k l = find? k l') : l = l' := by
  have hmem : ∀ e, e ∈ l ↔ e ∈ l' := by
    rintro ⟨k, v⟩
    rw [h.mem_iff, h'.mem_iff, hfind]
  have hperm : l.Perm l' :=
    (List.perm_ext_iff_of_nodup h.nodup_keys.of_map h'.nodup_keys.of_map).mpr hmem
  refine hperm.eq_of_pairwise ?_ h h'
  intro e e' _ _ hlt hgt
  exact absurd (String.lt_trans hlt hgt) (String.lt_irrefl _)

end Sorted

/-! ## Several values -/

/-- **What is found after several values were set** is what is found among them, or else what was
there before. -/
theorem find?_foldl_insert (h : Sorted l) (h' : Sorted l') (k : String) :
    find? k (l'.foldl (fun acc e => insert e.1 e.2 acc) l) = (find? k l').or (find? k l) := by
  induction l' generalizing l with
  | nil => rfl
  | cons e rest ih =>
    obtain ⟨hhead, hrest⟩ := List.pairwise_cons.mp h'
    rw [List.foldl_cons, ih (sorted_insert e.1 e.2 h) hrest, find?_insert _ _ _ h, find?_cons]
    by_cases hk : e.1 = k
    · subst hk
      -- the key does not come again
      have hnone : find? e.1 rest = none := by
        refine Option.eq_none_iff_forall_ne_some.mpr fun v hv => ?_
        exact String.lt_irrefl _ (hhead (e.1, v) (mem_of_find? hv))
      simp [hnone]
    · rw [if_neg hk, if_neg (Ne.symm hk)]

theorem Sorted.sort_eq (h : Sorted l) : sort l = l := by
  refine (sorted_sort l).ext h fun k => ?_
  rw [sort, find?_foldl_insert List.Pairwise.nil h]
  exact Option.or_none

/-! ## Sorting without repetition -/

theorem mem_insert_self (k : String) (v : α) (l : List (String × α)) : (k, v) ∈ insert k v l := by
  induction l with
  | nil => exact List.mem_cons_self
  | cons a rest ih =>
    unfold insert
    split
    · exact List.mem_cons_self
    · split
      · exact List.mem_cons_self
      · exact List.mem_cons_of_mem _ ih

theorem mem_insert_of_ne (he : e ∈ l) (hne : e.1 ≠ k) : e ∈ insert k v l := by
  induction l with
  | nil => cases he
  | cons a rest ih =>
    unfold insert
    split
    · exact List.mem_cons_of_mem _ he
    · split
      · next heq =>
        rcases List.mem_cons.mp he with rfl | he
        · exact absurd heq.symm hne
        · exact List.mem_cons_of_mem _ he
      · rcases List.mem_cons.mp he with rfl | he
        · exact List.mem_cons_self
        · exact List.mem_cons_of_mem _ (ih he)

theorem mem_foldl_insert (he : e ∈ l) (hne : ∀ e' ∈ l', e'.1 ≠ e.1) :
    e ∈ l'.foldl (fun acc e => insert e.1 e.2 acc) l := by
  induction l' generalizing l with
  | nil => exact he
  | cons e' rest ih =>
    obtain ⟨he', hrest⟩ := List.forall_mem_cons.mp hne
    exact ih (mem_insert_of_ne he (Ne.symm he')) hrest

/-- **Sorting loses nothing** of a list in which no key comes twice. -/
theorem mem_sort (hnodup : (l.map Prod.fst).Nodup) (he : e ∈ l) : e ∈ sort l := by
  obtain ⟨before, after, rfl⟩ := List.append_of_mem he
  have hafter : ∀ e' ∈ after, e'.1 ≠ e.1 := by
    intro e' he' heq
    rw [List.map_append, List.map_cons, List.nodup_append] at hnodup
    exact (List.nodup_cons.mp hnodup.2.1).1 (List.mem_map.mpr ⟨e', he', heq⟩)
  rw [sort, List.foldl_append, List.foldl_cons]
  exact mem_foldl_insert (mem_insert_self _ _ _) hafter

end Clearance.Keyed
