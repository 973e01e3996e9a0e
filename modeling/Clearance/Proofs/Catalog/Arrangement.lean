import Mathlib.Data.Prod.Lex
import Mathlib.Data.List.Forall2
import Clearance.Catalog
import Clearance.Proofs.Text.ByteOrder

/-!
# The arrangement of a catalog

A catalog has an entry for every value that the policy defines under a name of the category, no
more and no fewer, in the order of the policy.  Only the releases are put in an order of their own,
by the rank of an entry: its group, then its name.  Ranks are in a linear order, so that the names
come out the same in whatever order the policy lists them; two entries of one rank may still differ
in their labels, and stay as the policy has them.

## Main definitions

* `Category.IsSlug`: the names of a category
* `Policy.Lists`: the values that definitions give a category
* `Catalog.Arranged`: entries put in order
* `Policy.Reordered`: a policy whose definitions and values stand in another order

## Main results

* `Policy.lists_iff`: the values of a category, computed
* `Catalog.arranged_mergeSort`, `Catalog.Arranged.values_eq`: sorting arranges, and the names of
  what is arranged do not depend on the order before
* `Catalog.ofPolicy_exact`: a catalog has the entries of its policy
-/

namespace Clearance

/-! ## What a policy lists -/

/-- A name of a category: its letters, `_` and `-` left out, are those of the segment. -/
def Category.IsSlug (category : Category) (name : String) : Prop :=
  slugLetters name.toList = category.segment.toList

theorem Category.ofSlug?_eq_some_iff {name : String} {category : Category} :
    ofSlug? name = some category ↔ category.IsSlug name := by
  constructor
  · intro h
    have hsegment := List.find?_some h
    exact (of_decide_eq_true hsegment).symm
  · intro h
    rw [ofSlug?, show slugLetters name.toList = category.segment.toList from h]
    cases category <;> decide

namespace Policy

variable {category : Category} {ds : List Definition} {values : List String} {p q : Policy}

/-- The values that definitions give a category, definition by definition. -/
inductive Lists (category : Category) : List Definition → List String → Prop
  | nil : Lists category [] []
  | slug {d ds values} (hd : category.IsSlug d.name) (h : Lists category ds values) :
      Lists category (d :: ds) (d.values ++ values)
  | other {d ds values} (hd : ¬ category.IsSlug d.name) (h : Lists category ds values) :
      Lists category (d :: ds) values

/-- The values of the definitions of a category. -/
def valuesOf (category : Category) (ds : List Definition) : List String :=
  (ds.filter fun d => Category.ofSlug? d.name = some category).flatMap (·.values)

theorem valuesOf_cons_slug {d : Definition} (hd : category.IsSlug d.name) (ds : List Definition) :
    valuesOf category (d :: ds) = d.values ++ valuesOf category ds := by
  simp [valuesOf, Category.ofSlug?_eq_some_iff.mpr hd]

theorem valuesOf_cons_other {d : Definition} (hd : ¬ category.IsSlug d.name)
    (ds : List Definition) : valuesOf category (d :: ds) = valuesOf category ds := by
  rw [← Category.ofSlug?_eq_some_iff] at hd
  simp [valuesOf, hd]

/-- **The values of a category** are those of its definitions, one after another. -/
theorem lists_iff : Lists category ds values ↔ values = valuesOf category ds := by
  constructor
  · intro h
    induction h with
    | nil => rfl
    | slug hd _ ih => rw [valuesOf_cons_slug hd, ih]
    | other hd _ ih => rw [valuesOf_cons_other hd, ih]
  · rintro rfl
    induction ds with
    | nil => exact .nil
    | cons d ds ih =>
      by_cases hd : category.IsSlug d.name
      · rw [valuesOf_cons_slug hd]
        exact .slug hd ih
      · rw [valuesOf_cons_other hd]
        exact .other hd ih

/-- The definitions stand in another order, and so do the values within each. -/
structure Reordered (p q : Policy) : Prop where
  namespaceName : q.namespaceName = p.namespaceName
  definitions : ∃ ds, ds.Perm p.definitions ∧
    List.Forall₂ (fun d e => e.name = d.name ∧ e.values.Perm d.values) ds q.definitions

theorem valuesOf_perm_of_forall₂ {es : List Definition}
    (h : List.Forall₂ (fun d e => e.name = d.name ∧ e.values.Perm d.values) ds es) :
    (valuesOf category es).Perm (valuesOf category ds) := by
  induction h with
  | nil => exact .refl _
  | @cons d e ds es hde _ ih =>
    by_cases hd : category.IsSlug d.name
    · rw [valuesOf_cons_slug hd, valuesOf_cons_slug (hde.1 ▸ hd)]
      exact hde.2.append ih
    · rw [valuesOf_cons_other hd, valuesOf_cons_other (hde.1 ▸ hd)]
      exact ih

/-- A reordered policy has the same values of each category. -/
theorem Reordered.valuesOf_perm (h : p.Reordered q) :
    (valuesOf category q.definitions).Perm (valuesOf category p.definitions) := by
  obtain ⟨ds, hperm, hvalues⟩ := h.definitions
  exact (valuesOf_perm_of_forall₂ hvalues).trans ((hperm.filter _).flatMap_right _)

end Policy

namespace Catalog

open Policy (valuesOf)

variable {a b : Entry} {es es' arranged arranged' : List Entry}

theorem entriesOf_eq (p : Policy) (category : Category) :
    entriesOf p category =
      (valuesOf category p.definitions).map (entryOf p.namespaceName category) := by
  rw [entriesOf, valuesOf, List.map_flatMap]

/-! ## Ranks -/

/-- The entry is in the priority group. -/
def Entry.isPriority (e : Entry) : Bool := e.group.isSome

/-- The rank of an entry: the priority group is before the others, and the names are in order within
each. -/
def Entry.rank (e : Entry) : Bool ×ₗ String := toLex (!e.isPriority, e.value.text)

theorem precedes_iff_rank_le : precedes a b = true ↔ a.rank ≤ b.rank := by
  rw [precedes, Entry.rank, Entry.rank, Prod.Lex.toLex_le_toLex, Entry.isPriority, Entry.isPriority]
  cases a.group.isSome <;> cases b.group.isSome <;> simp

theorem precedes_trans (a b c : Entry) (hab : precedes a b = true) (hbc : precedes b c = true) :
    precedes a c = true := by
  rw [precedes_iff_rank_le] at hab hbc ⊢
  exact hab.trans hbc

theorem precedes_total (a b : Entry) : (precedes a b || precedes b a) = true := by
  rw [Bool.or_eq_true, precedes_iff_rank_le, precedes_iff_rank_le]
  exact le_total _ _

theorem rank_le_iff :
    a.rank ≤ b.rank ↔ (b.isPriority = true → a.isPriority = true) ∧
      (a.isPriority = b.isPriority → Text.bytes a.value.text ≤ Text.bytes b.value.text) := by
  rw [Text.bytes_le_bytes_iff, Entry.rank, Entry.rank, Prod.Lex.toLex_le_toLex]
  cases a.isPriority <;> cases b.isPriority <;> simp

/-! ## Arranged entries -/

/-- **Entries put in order.**  They are the same entries as before, repetitions included.  The
priority group comes first, each group is in the order of the bytes of its names, and entries of one
group and name stand as before. -/
structure Arranged (es arranged : List Entry) : Prop where
  perm : arranged.Perm es
  priorityFirst : arranged.Pairwise fun a b => b.isPriority = true → a.isPriority = true
  ascending : arranged.Pairwise fun a b =>
    a.isPriority = b.isPriority → Text.bytes a.value.text ≤ Text.bytes b.value.text
  stable : ∀ priority text,
    (arranged.filter fun e => e.isPriority = priority ∧ e.value.text = text) =
      es.filter fun e => e.isPriority = priority ∧ e.value.text = text

theorem pairwise_rank_mergeSort (es : List Entry) :
    (es.mergeSort precedes).Pairwise fun a b => a.rank ≤ b.rank :=
  (List.pairwise_mergeSort precedes_trans precedes_total es).imp precedes_iff_rank_le.mp

/-- Entries that are all of one rank are not moved among themselves. -/
theorem filter_mergeSort (es : List Entry) (keep : Entry → Bool)
    (hties : ∀ a b, keep a = true → keep b = true → a.rank = b.rank) :
    (es.mergeSort precedes).filter keep = es.filter keep := by
  have hkept : (es.filter keep).Pairwise fun a b => precedes a b = true := by
    refine List.pairwise_of_forall_mem_list fun a ha b hb => precedes_iff_rank_le.mpr ?_
    exact (hties a b (List.mem_filter.mp ha).2 (List.mem_filter.mp hb).2).le
  have hsub : (es.filter keep).Sublist (es.mergeSort precedes) :=
    List.sublist_mergeSort precedes_trans precedes_total hkept List.filter_sublist
  -- what is kept is a sublist of what is kept of the sorted list, and of the same length
  have hkeep : (es.filter keep).Sublist ((es.mergeSort precedes).filter keep) := by
    simpa using hsub.filter keep
  have hlength := ((List.mergeSort_perm es precedes).filter keep).length_eq
  exact (hkeep.eq_of_length hlength.symm).symm

/-- **Sorting arranges.** -/
theorem arranged_mergeSort (es : List Entry) : Arranged es (es.mergeSort precedes) where
  perm := List.mergeSort_perm es precedes
  priorityFirst := (pairwise_rank_mergeSort es).imp fun h => (rank_le_iff.mp h).1
  ascending := (pairwise_rank_mergeSort es).imp fun h => (rank_le_iff.mp h).2
  stable := fun priority text => filter_mergeSort es _ fun a b ha hb => by
    simp only [Bool.decide_and, Bool.and_eq_true, decide_eq_true_eq] at ha hb
    simp [Entry.rank, ha, hb]

theorem Arranged.pairwise_rank (h : Arranged es arranged) :
    (arranged.map Entry.rank).Pairwise (· ≤ ·) := by
  rw [List.pairwise_map]
  exact (h.priorityFirst.and h.ascending).imp rank_le_iff.mpr

/-- **The names of arranged entries** do not depend on the order in which they stood before. -/
theorem Arranged.values_eq (h : Arranged es arranged) (h' : Arranged es' arranged')
    (hperm : es'.Perm es) : arranged'.map (·.value) = arranged.map (·.value) := by
  have hranks : arranged'.map Entry.rank = arranged.map Entry.rank :=
    -- the entries may differ, but of ranks there is only one sorted list
    List.Perm.eq_of_pairwise (fun _ _ _ _ => le_antisymm) h'.pairwise_rank h.pairwise_rank
      (((h'.perm.trans hperm).trans h.perm.symm).map _)
  -- an entry is named by its rank
  let name (rank : Bool ×ₗ String) : Attribute := ⟨(ofLex rank).2⟩
  calc arranged'.map (·.value) = (arranged'.map Entry.rank).map name := by rw [List.map_map]; rfl
    _ = (arranged.map Entry.rank).map name := by rw [hranks]
    _ = arranged.map (·.value) := by rw [List.map_map]; rfl

/-! ## The catalog of a policy -/

/-- **A catalog has the entries of its policy.**  Its classifications and needs to know are the
entries of the values that the policy defines under a name of the category, in the order of the
policy; its releases are those entries put in order.  Another order of the definitions, or of the
values within them, leaves the names of the releases as they are. -/
theorem ofPolicy_exact (p : Policy) :
    (∃ values, Policy.Lists .classification p.definitions values ∧
      (ofPolicy p).classification = values.map (entryOf p.namespaceName .classification)) ∧
    (∃ values, Policy.Lists .needToKnow p.definitions values ∧
      (ofPolicy p).needToKnow = values.map (entryOf p.namespaceName .needToKnow)) ∧
    (∃ values, Policy.Lists .relTo p.definitions values ∧
      Arranged (values.map (entryOf p.namespaceName .relTo)) (ofPolicy p).relTo) ∧
    ∀ q, p.Reordered q → (ofPolicy q).relTo.map (·.value) = (ofPolicy p).relTo.map (·.value) := by
  refine ⟨⟨_, Policy.lists_iff.mpr rfl, entriesOf_eq p _⟩,
    ⟨_, Policy.lists_iff.mpr rfl, entriesOf_eq p _⟩, ⟨_, Policy.lists_iff.mpr rfl, ?_⟩,
    fun q hq => ?_⟩
  · rw [← entriesOf_eq]
    exact arranged_mergeSort _
  · refine (arranged_mergeSort (entriesOf p .relTo)).values_eq (arranged_mergeSort _) ?_
    rw [entriesOf_eq, entriesOf_eq, hq.namespaceName]
    exact hq.valuesOf_perm.map _

/-- Two definitions of releases change places, and so do the values of one of them. -/
theorem ofPolicy_exact_two_orders :
    let p : Policy := ⟨"d.com", [⟨"rel-to", ["zzz", "usa"]⟩, ⟨"RelTo", ["nato"]⟩]⟩
    let q : Policy := ⟨"d.com", [⟨"RelTo", ["nato"]⟩, ⟨"rel-to", ["usa", "zzz"]⟩]⟩
    p.Reordered q ∧ (ofPolicy q).relTo.map (·.value) = (ofPolicy p).relTo.map (·.value) := by
  intro p q
  have hq : p.Reordered q :=
    ⟨rfl, [⟨"RelTo", ["nato"]⟩, ⟨"rel-to", ["zzz", "usa"]⟩], List.Perm.swap ..,
      .cons ⟨rfl, .refl _⟩ (.cons ⟨rfl, List.Perm.swap ..⟩ .nil)⟩
  exact ⟨hq, (ofPolicy_exact p).2.2.2 q hq⟩

end Catalog
end Clearance
