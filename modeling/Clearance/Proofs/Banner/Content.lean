import Clearance.Proofs.Banner.Holdings
import Clearance.Proofs.Distinct

/-!
# What a banner says

The level of a banner is the highest level of its objects.  Its caveats come in three parts: the
names of needs to know, the names of classifications without a level that are no needs to know as
well, and one caveat for the releases.  Each name stands once and where it was first seen, and the
name of the level, which is known only when all objects have been seen, is in none of the parts.

Which names there are does not depend on the order of the objects.  More objects never lower the
level, and hide no name but that of a level which they bring.

## Main definitions

* `Banner.Content`: level and caveats of a banner of some objects

## Main results

* `Banner.content_compute`, `Banner.Content.eq`: every list of objects has a banner, and only one
* `Banner.Content.mono`, `Banner.Content.of_perm`: more objects, and objects in another order
* `Banner.content_exact`: all of it
-/

namespace Clearance

open Distinct (FirstSeen)
open Marking (classifications needs releases)

namespace Banner

variable {b b' : Banner} {l l' : List Marking}
  {needed unranked released needed' unranked' released' : List String}

/-! ## The content of a banner -/

/-- The level and the caveats of a banner of some objects.  The caveats are the names of needs to
know, the other names of classifications that are the name of no level, and one caveat for the
names of releases. -/
structure Content (b : Banner) (l : List Marking) (needed unranked released : List String) :
    Prop where
  /-- No object is above the level. -/
  level_le : ∀ m ∈ l, m.level ≤ b.level
  /-- The level is that of an object; without objects it is the lowest one. -/
  level_eq : (l = [] ∧ b.level = .unclassified) ∨ ∃ m ∈ l, m.level = b.level
  caveats : b.caveats = needed ++ unranked ++ releaseCaveat released
  needed : FirstSeen (fun n => n ≠ b.level.name) (needs l) needed
  unranked : FirstSeen (fun n => (∀ level : Level, n ≠ level.name) ∧ n ∉ needs l)
    (classifications l) unranked
  released : FirstSeen (fun n => n ≠ b.level.name) (releases l) released

/-! ## Banners of some objects -/

/-- The level of a banner is the highest of the levels of the objects. -/
theorem level_compute (l : List Marking) :
    (compute l).level = (l.map Marking.level).foldl max .unclassified := by
  have hlevel : (compute l).level =
      ((classifications l).filterMap Level.ofName?).foldl max .unclassified :=
    congrArg Tally.level (Tally.ofList_eq l)
  rw [hlevel]
  clear hlevel
  induction l with
  | nil => rfl
  | cons m rest ih =>
    rw [classifications, List.flatMap_cons, List.filterMap_append, List.foldl_append,
      Attribute.filterMap_ofName?_names, ← classifications, Level.foldl_max, ih, List.map_cons,
      List.foldl_cons, Level.foldl_max _ (max _ _), Level.max_unclassified_left, Marking.level]

/-- The caveats of a banner, as they are gathered. -/
theorem caveats_compute (l : List Marking) :
    let other : String → Bool := fun n => n ≠ (compute l).level.name
    (compute l).caveats =
      Distinct.ofList ((Distinct.ofList (needs l)).filter other ++
        (Distinct.ofList
          ((classifications l).filter fun n => (Level.ofName? n).isNone)).filter other) ++
      releaseCaveat ((Distinct.ofList (releases l)).filter other) := by
  intro other
  have hneeds : (Tally.ofList l).needToKnow = Distinct.ofList (needs l) :=
    congrArg Tally.needToKnow (Tally.ofList_eq l)
  have hunranked : (Tally.ofList l).unranked =
      Distinct.ofList ((classifications l).filter fun n => (Level.ofName? n).isNone) :=
    congrArg Tally.unranked (Tally.ofList_eq l)
  have hreleases : (Tally.ofList l).relTo = Distinct.ofList (releases l) :=
    congrArg Tally.relTo (Tally.ofList_eq l)
  rw [← hneeds, ← hunranked, ← hreleases, ← List.filter_append]
  rfl

/-- The names of classifications without a level are those of no level. -/
theorem isNone_ofName?_iff {n : String} (hn : n ∈ classifications l) :
    (Level.ofName? n).isNone = true ↔ ∀ level : Level, n ≠ level.name := by
  rw [Option.isNone_iff_eq_none, Option.eq_none_iff_forall_ne_some]
  refine forall_congr' fun level => ?_
  rw [ne_eq, Marking.ofName?_eq_some_iff_of_mem hn]

/-- The highest level is that of an object; without objects it is the lowest one. -/
theorem level_compute_cases (l : List Marking) :
    (l = [] ∧ (compute l).level = .unclassified) ∨ ∃ m ∈ l, m.level = (compute l).level := by
  rw [level_compute]
  rcases Level.foldl_max_eq_or_mem (l.map Marking.level) .unclassified with hlow | hmem
  · cases l with
    | nil => exact .inl ⟨rfl, rfl⟩
    | cons m rest =>
      -- no object is above the lowest level, so all of them have it
      have hle : m.level ≤ .unclassified := by
        rw [← hlow]
        exact Level.le_foldl_max (List.mem_map_of_mem List.mem_cons_self) _
      refine .inr ⟨m, List.mem_cons_self, ?_⟩
      rw [hlow]
      exact Level.le_antisymm hle (Level.unclassified_le _)
  · exact .inr (List.mem_map.mp hmem)

/-- **Every list of objects has a banner with such a content.** -/
theorem content_compute (l : List Marking) :
    ∃ needed unranked released, (compute l).Content l needed unranked released := by
  let other : String → Bool := fun n => n ≠ (compute l).level.name
  have hneeded := (Distinct.firstSeen_ofList (needs l)).filter other
  have hunranked := (Distinct.firstSeen_ofList_filter (fun n => (Level.ofName? n).isNone)
    (classifications l)).filter other
  have hreleased := (Distinct.firstSeen_ofList (releases l)).filter other
  refine ⟨_, _, _, ?_, level_compute_cases l, ?_, hneeded.congr fun n _ => ?_,
    (hunranked.filter fun n => n ∉ (Distinct.ofList (needs l)).filter other).congr fun n hn => ?_,
    hreleased.congr fun n _ => ?_⟩
  · intro m hm
    rw [level_compute]
    exact Level.le_foldl_max (List.mem_map_of_mem hm) _
  · rw [caveats_compute, Distinct.ofList_append_of_nodup hneeded.nodup hunranked.nodup]
  · simp [other]
  · rw [isNone_ofName?_iff hn]
    simp only [other, decide_eq_true_eq, hneeded.mem_iff, not_and, not_not, true_and]
    -- a name of no level is not that of the highest one either
    constructor
    · rintro ⟨⟨hlevel, -⟩, hneeds⟩
      exact ⟨hlevel, fun hmem => hlevel _ (hneeds hmem)⟩
    · rintro ⟨hlevel, hneeds⟩
      exact ⟨⟨hlevel, hlevel _⟩, fun hmem => absurd hmem hneeds⟩
  · simp [other]

/-! ## More objects, and other orders -/

theorem flatMap_subset_flatMap {α β : Type} {xs ys : List α} (h : xs ⊆ ys) (f : α → List β) :
    xs.flatMap f ⊆ ys.flatMap f := by
  intro b hb
  obtain ⟨a, ha, hb⟩ := List.mem_flatMap.mp hb
  exact List.mem_flatMap.mpr ⟨a, h ha, hb⟩

namespace Content

/-- **The names before the releases**: those of needs to know, and those of classifications that
are the name of no level.  The name of the level of the banner is not among them. -/
theorem mem_names_iff (h : b.Content l needed unranked released) {n : String} :
    n ∈ needed ++ unranked ↔ n ≠ b.level.name ∧
      (n ∈ needs l ∨ n ∈ classifications l ∧ ∀ level : Level, n ≠ level.name) := by
  rw [List.mem_append, h.needed.mem_iff, h.unranked.mem_iff]
  by_cases hn : n ∈ needs l
  · simp [hn]
  · simp only [hn, false_and, false_or, not_false_eq_true, and_true]
    constructor
    · rintro ⟨hc, hlevel⟩
      exact ⟨hlevel _, hc, hlevel⟩
    · rintro ⟨-, hc, hlevel⟩
      exact ⟨hc, hlevel⟩

/-- No name stands before the releases twice. -/
theorem nodup_names (h : b.Content l needed unranked released) : (needed ++ unranked).Nodup := by
  rw [List.nodup_append]
  refine ⟨h.needed.nodup, h.unranked.nodup, ?_⟩
  rintro n hn _ hu rfl
  exact ((h.unranked.mem_iff n).mp hu).2.2 ((h.needed.mem_iff n).mp hn).1

theorem releaseCaveat_ne_nil_iff (h : b.Content l needed unranked released) :
    releaseCaveat released ≠ [] ↔ ∃ n ∈ releases l, n ≠ b.level.name := by
  have hnil : releaseCaveat released = [] ↔ released = [] := by
    cases released <;> simp [releaseCaveat]
  rw [ne_eq, hnil, List.eq_nil_iff_forall_not_mem]
  simp only [h.released.mem_iff, not_forall, not_not]

/-- More objects do not lower the level. -/
theorem level_mono (h : b.Content l needed unranked released)
    (h' : b'.Content l' needed' unranked' released') (hsub : l ⊆ l') : b.level ≤ b'.level := by
  rcases h.level_eq with ⟨-, hlow⟩ | ⟨m, hm, hlevel⟩
  · rw [hlow]
    exact Level.unclassified_le _
  · rw [← hlevel]
    exact h'.level_le m (hsub hm)

/-- **More objects hide no name** but that of their level. -/
theorem mono (h : b.Content l needed unranked released)
    (h' : b'.Content l' needed' unranked' released') (hsub : l ⊆ l') {n : String}
    (hne : n ≠ b'.level.name) :
    (n ∈ needed ++ unranked → n ∈ needed' ++ unranked') ∧ (n ∈ released → n ∈ released') := by
  constructor
  · intro hn
    obtain ⟨-, hkind⟩ := h.mem_names_iff.mp hn
    refine h'.mem_names_iff.mpr ⟨hne, ?_⟩
    -- the name is still of the same kind
    rcases hkind with hn | ⟨hn, hlevel⟩
    · exact .inl (flatMap_subset_flatMap hsub _ hn)
    · exact .inr ⟨flatMap_subset_flatMap hsub _ hn, hlevel⟩
  · intro hn
    obtain ⟨hn, -⟩ := (h.released.mem_iff n).mp hn
    exact (h'.released.mem_iff n).mpr ⟨flatMap_subset_flatMap hsub _ hn, hne⟩

/-- **The order of the objects is only the order of the names.** -/
theorem of_perm (h : b.Content l needed unranked released)
    (h' : b'.Content l' needed' unranked' released') (hperm : l.Perm l') :
    b.level = b'.level ∧ needed.Perm needed' ∧ unranked.Perm unranked' ∧
      released.Perm released' := by
  have hlevel : b.level = b'.level :=
    Level.le_antisymm (h.level_mono h' hperm.subset) (h'.level_mono h hperm.symm.subset)
  have hneeds : ∀ n, n ∈ needs l ↔ n ∈ needs l' := fun n => (hperm.flatMap_right _).mem_iff
  have hclasses : ∀ n, n ∈ classifications l ↔ n ∈ classifications l' := fun n =>
    (hperm.flatMap_right _).mem_iff
  have hreleases : ∀ n, n ∈ releases l ↔ n ∈ releases l' := fun n =>
    (hperm.flatMap_right _).mem_iff
  refine ⟨hlevel, h.needed.perm h'.needed fun n => ?_, h.unranked.perm h'.unranked fun n => ?_,
    h.released.perm h'.released fun n => ?_⟩
  · rw [hneeds, hlevel]
  · rw [hclasses, hneeds]
  · rw [hreleases, hlevel]

/-- **Objects have only one banner.** -/
theorem eq (h : b.Content l needed unranked released)
    (h' : b'.Content l needed' unranked' released') : b = b' := by
  obtain ⟨hlevel, -⟩ := h.of_perm h' (List.Perm.refl l)
  have hneeded : needed = needed' := h.needed.eq (hlevel ▸ h'.needed)
  have hunranked : unranked = unranked' := h.unranked.eq h'.unranked
  have hreleased : released = released' := h.released.eq (hlevel ▸ h'.released)
  have hcaveats : b.caveats = b'.caveats := by
    rw [h.caveats, h'.caveats, hneeded, hunranked, hreleased]
  cases b
  cases b'
  congr

end Content

/-- **What a banner says is exact.**  The banner of some objects is the only one with their content:
its level is the highest of theirs, and its caveats are the names of needs to know, then the names
of classifications without a level, then one caveat for the releases, all of them as they were
first seen and without the name of the level.

* Before the releases no name stands twice, and the names are those of the needs to know and of the
  classifications without a level.
* There is a caveat for the releases exactly when there is a release besides the name of the level.
* The same objects in another order have the same level and the same names.
* More objects do not lower the level, and hide no name but that of their level. -/
theorem content_exact (l : List Marking) :
    (∀ b : Banner, (∃ needed unranked released, b.Content l needed unranked released) ↔
      b = compute l) ∧
    ∀ needed unranked released, (compute l).Content l needed unranked released →
      ((needed ++ unranked).Nodup ∧
        ∀ n, n ∈ needed ++ unranked ↔ n ≠ (compute l).level.name ∧
          (n ∈ needs l ∨ n ∈ classifications l ∧ ∀ level : Level, n ≠ level.name)) ∧
      (releaseCaveat released ≠ [] ↔ ∃ n ∈ releases l, n ≠ (compute l).level.name) ∧
      ∀ l' needed' unranked' released',
        (compute l').Content l' needed' unranked' released' →
        (l.Perm l' → (compute l).level = (compute l').level ∧ needed.Perm needed' ∧
          unranked.Perm unranked' ∧ released.Perm released') ∧
        (l ⊆ l' → (compute l).level ≤ (compute l').level ∧
          ∀ n, n ≠ (compute l').level.name →
            (n ∈ needed ++ unranked → n ∈ needed' ++ unranked') ∧
            (n ∈ released → n ∈ released')) := by
  constructor
  · intro b
    constructor
    · rintro ⟨needed, unranked, released, h⟩
      obtain ⟨needed', unranked', released', h'⟩ := content_compute l
      exact h.eq h'
    · rintro rfl
      exact content_compute l
  · intro needed unranked released h
    refine ⟨⟨h.nodup_names, fun n => h.mem_names_iff⟩, h.releaseCaveat_ne_nil_iff, ?_⟩
    intro l' needed' unranked' released' h'
    exact ⟨h.of_perm h', fun hsub => ⟨h.level_mono h' hsub, fun n hne => h.mono h' hsub hne⟩⟩

end Banner
end Clearance
