import Clearance.Marking.Marking
import Clearance.Proofs.Marking.SimpleName

/-!
# Levels of markings

The level of a marking is that of one of its classifications, or the lowest.  An attribute names a
level by its simple name alone, so that attributes of one simple name name the same level.

## Main results

* `Level.mem_subordinates`: the levels that a level covers
* `Level.le_foldl_max`, `Level.foldl_max_eq_or_mem`: the highest of some levels
* `Attribute.level?_eq_some_iff`: the attributes that name a level
* `Marking.level_eq_or_exists`: where the level of a marking comes from
-/

namespace Clearance

namespace Level

theorem unclassified_le (l : Level) : unclassified ≤ l := Nat.zero_le _

theorem le_trans {a b c : Level} (hab : a ≤ b) (hbc : b ≤ c) : a ≤ c := Nat.le_trans hab hbc

theorem le_antisymm {a b : Level} (hab : a ≤ b) (hba : b ≤ a) : a = b := by
  have hpriority : a.priority = b.priority := Nat.le_antisymm hab hba
  revert hpriority
  cases a <;> cases b <;> decide

@[simp] theorem mem_subordinates {l ceiling : Level} : l ∈ ceiling.subordinates ↔ l ≤ ceiling := by
  have hall : l ∈ all := by cases l <;> decide
  simp [subordinates, hall]

@[simp] theorem max_unclassified_left (l : Level) : max unclassified l = l :=
  if_pos (unclassified_le l)

@[simp] theorem max_unclassified_right (l : Level) : max l unclassified = l := by
  cases l <;> rfl

instance : Std.Associative (max : Level → Level → Level) where
  assoc a b c := by cases a <;> cases b <;> cases c <;> rfl

theorem max_eq_or (a b : Level) : max a b = a ∨ max a b = b := by
  show (if a ≤ b then b else a) = a ∨ (if a ≤ b then b else a) = b
  split
  · exact .inr rfl
  · exact .inl rfl

theorem le_max_left (a b : Level) : a ≤ max a b := by
  cases a <;> cases b <;> decide

theorem le_max_right (a b : Level) : b ≤ max a b := by
  cases a <;> cases b <;> decide

/-- The highest of some levels and another one. -/
theorem foldl_max (ls : List Level) (l : Level) :
    ls.foldl max l = max l (ls.foldl max unclassified) :=
  calc ls.foldl max l = ls.foldl max (max l unclassified) := by rw [max_unclassified_right]
    _ = max l (ls.foldl max unclassified) := List.foldl_assoc

theorem foldl_max_eq_or_mem (ls : List Level) (l : Level) :
    ls.foldl max l = l ∨ ls.foldl max l ∈ ls := by
  induction ls generalizing l with
  | nil => exact .inl rfl
  | cons a rest ih =>
    rw [List.foldl_cons]
    -- the maximum so far is the start or the level just met
    rcases ih (max l a) with h | h
    · rw [h]
      rcases max_eq_or l a with hm | hm
      · exact .inl hm
      · exact .inr (by simp [hm])
    · exact .inr (List.mem_cons_of_mem _ h)

/-- None of some levels is above the highest of them. -/
theorem le_foldl_max {ls : List Level} {a : Level} (h : a ∈ ls) (l : Level) :
    a ≤ ls.foldl max l := by
  induction ls generalizing l with
  | nil => cases h
  | cons b rest ih =>
    rw [List.foldl_cons]
    obtain rfl | h := List.mem_cons.mp h
    · -- the maximum so far only rises
      rw [foldl_max]
      exact le_trans (le_max_right l a) (le_max_left _ _)
    · exact ih h _

theorem ofName?_eq_some_iff {s : String} {l : Level} :
    ofName? s = some l ↔ l.name = Text.upper (Text.trim s) := by
  unfold ofName?
  constructor
  · intro h
    simpa using List.find?_some h
  · intro h
    rw [← h]
    cases l <;> decide

end Level

/-- **An attribute names a level** exactly when its simple name is that of the level. -/
theorem Attribute.level?_eq_some_iff {v : Attribute} {l : Level} :
    v.level? = some l ↔ v.simpleName = l.name := by
  rw [level?, Level.ofName?_eq_some_iff, upper_trim_simpleName]
  exact eq_comm

/-- An attribute without a name names no level. -/
theorem Attribute.simpleName_ne_of_level? {v : Attribute} {l : Level} (h : v.level? = some l) :
    v.simpleName ≠ "" := by
  intro he
  rw [Attribute.level?, he] at h
  revert h
  cases l <;> decide

theorem Attribute.level?_congr {v w : Attribute} (h : v.simpleName = w.simpleName) :
    v.level? = w.level? := by
  rw [level?, level?, h]

/-- An attribute without a name names no level, so that the levels may be read off the names. -/
theorem Attribute.filterMap_ofName?_names (l : List Attribute) :
    (names l).filterMap Level.ofName? = l.filterMap level? := by
  rw [names, List.filterMap_filter, List.filterMap_map]
  refine List.filterMap_congr fun v _ => ?_
  by_cases hne : v.simpleName = ""
  · have hnone : v.level? = none :=
      Option.eq_none_iff_forall_ne_some.mpr fun l hl => simpleName_ne_of_level? hl hne
    simp [hne, hnone]
  · simp [hne, level?]

/-- The level of a marking is the lowest one, or named by one of its classifications. -/
theorem Marking.level_eq_or_exists (m : Marking) :
    m.level = .unclassified ∨ ∃ v ∈ m.classification, v.level? = some m.level := by
  rcases Level.foldl_max_eq_or_mem (m.classification.filterMap Attribute.level?) .unclassified
    with h | h
  · exact .inl h
  · exact .inr (List.mem_filterMap.mp h)

/-- An object with a single classification has its level. -/
theorem Marking.level_singleton {v : Attribute} {l : Level} (id : String) (h : v.level? = some l) :
    ({ id := id, classification := [v] } : Marking).level = l := by
  simp [Marking.level, h]

end Clearance
