import Clearance.Proofs.Json.Keyed
import Clearance.Toml.Reader

/-!
# Trees in order

A text may add to one table in several places, and a key may be given its value only once.  In the
tree of a text, then, every table has its members in order of their keys, without repetition, at
any depth.

## Main definitions

* `Node.Ordered`, `Table.Ordered`: every table inside is in order
* `Table.Keeps`: a change that keeps a table in order

## Main results

* `Table.Keeps.within`: a change at a path of keys
* `Table.keeps_assign`, `Table.keeps_open_`, `Table.keeps_append`: the three ways to add to a table
* `ordered_of_parse?`: the tree of a text is in order
-/

namespace Clearance.Toml

variable {v tree : Node} {t t' : Table} {k : String} {kind : TableKind} {dotted : Bool}
  {members : List (String × Node)} {path : List String} {cs rest : List Char}
  {change : Table → Option Table}

/-- Every table in the tree has its members in order of their keys. -/
inductive Node.Ordered : Node → Prop
  | leaf {value : Scalar} : Ordered (.leaf value)
  | array {ofTables : Bool} {items : List Node} (items_ordered : ∀ v ∈ items, Ordered v) :
    Ordered (.array ofTables items)
  | table {kind : TableKind} {members : List (String × Node)} (sorted : Keyed.Sorted members)
    (values_ordered : ∀ e ∈ members, Ordered e.2) : Ordered (.table kind members)

namespace Table

/-- The members are in order of their keys, and so is every table inside. -/
structure Ordered (t : Table) : Prop where
  sorted : Keyed.Sorted t.members
  values : ∀ e ∈ t.members, e.2.Ordered

theorem Ordered.toNode (h : t.Ordered) : t.toNode.Ordered := .table h.sorted h.values

theorem ordered_of_node (h : (Node.table kind members).Ordered) :
    (⟨kind, members⟩ : Table).Ordered := by
  cases h with
  | table sorted values => exact ⟨sorted, values⟩

theorem ordered_empty (kind : TableKind) : (⟨kind, []⟩ : Table).Ordered :=
  ⟨List.Pairwise.nil, fun _ h => absurd h List.not_mem_nil⟩

theorem Ordered.find? (h : t.Ordered) (hv : t.find? k = some v) : v.Ordered :=
  h.values _ (Keyed.mem_of_find? hv)

theorem Ordered.set (h : t.Ordered) (hv : v.Ordered) : (t.set k v).Ordered where
  sorted := Keyed.sorted_insert k v h.sorted
  values e he := by
    obtain rfl | he := Keyed.eq_or_mem_of_mem_insert he
    · exact hv
    · exact h.values e he

/-! ## Changes -/

/-- The change keeps tables in order. -/
def Keeps (change : Table → Option Table) : Prop :=
  ∀ t t', change t = some t' → t.Ordered → t'.Ordered

theorem Keeps.within (h : Keeps change) (dotted : Bool) (path : List String) :
    Keeps (Table.within dotted path change) := by
  induction path with
  | nil => exact h
  | cons k path ih =>
    intro t t' hwithin ht
    rw [Table.within] at hwithin
    split at hwithin
    · -- the table is missing, and made
      obtain ⟨child, hchild, hset⟩ := Option.bind_eq_some_iff.mp hwithin
      obtain rfl := Option.some.inj hset
      exact ht.set (ih _ _ hchild (ordered_empty _)).toNode
    · next kind members hfind =>
      split at hwithin
      · cases hwithin
      · obtain ⟨child, hchild, hset⟩ := Option.bind_eq_some_iff.mp hwithin
        obtain rfl := Option.some.inj hset
        exact ht.set (ih _ _ hchild (ordered_of_node (ht.find? hfind))).toNode
    · next items hfind =>
      cases ht.find? hfind with
      | array hitems =>
        split at hwithin
        · next kind members hlast =>
          obtain ⟨child, hchild, hset⟩ := Option.bind_eq_some_iff.mp hwithin
          obtain rfl := Option.some.inj hset
          have hmembers := ordered_of_node (hitems _ (List.mem_of_getLast? hlast))
          refine ht.set (.array fun v hv => ?_)
          rcases List.mem_append.mp hv with hv | hv
          · exact hitems v (List.dropLast_subset _ hv)
          · rw [List.mem_singleton.mp hv]
            exact (ih _ _ hchild hmembers).toNode
        · cases hwithin
    · cases hwithin

/-- A value is given to a key. -/
theorem keeps_assign (hv : v.Ordered) (path : List String) (k : String) :
    Keeps fun t => t.assign path k v := by
  refine Keeps.within (fun t t' h ht => ?_) true path
  split at h
  · cases h
  · split at h
    · cases h
    · obtain rfl := Option.some.inj h
      exact ht.set hv

/-- A table is opened. -/
theorem keeps_open_ (path : List String) (k : String) : Keeps fun t => t.open_ path k := by
  refine Keeps.within (fun t t' h ht => ?_) false path
  split at h
  · obtain rfl := Option.some.inj h
    exact ht.set (ordered_empty .headed).toNode
  · next members hfind =>
    obtain rfl := Option.some.inj h
    have hmembers := ordered_of_node (ht.find? hfind)
    exact ht.set (.table hmembers.sorted hmembers.values)
  · cases h

/-- A table is added to an array. -/
theorem keeps_append (path : List String) (k : String) : Keeps fun t => t.append path k := by
  have hnew : (Node.table .headed []).Ordered := (ordered_empty .headed).toNode
  refine Keeps.within (fun t t' h ht => ?_) false path
  split at h
  · obtain rfl := Option.some.inj h
    exact ht.set (.array fun v hv => List.mem_singleton.mp hv ▸ hnew)
  · next items hfind =>
    obtain rfl := Option.some.inj h
    cases ht.find? hfind with
    | array hitems =>
      refine ht.set (.array fun v hv => ?_)
      rcases List.mem_append.mp hv with hv | hv
      · exact hitems v hv
      · exact List.mem_singleton.mp hv ▸ hnew
  · cases h

end Table

/-! ## Values -/

/-- The values that are read are in order. -/
def ReadsOrdered (value : List Char → Option (Node × List Char)) : Prop :=
  ∀ cs v rest, value cs = some (v, rest) → v.Ordered

section Values

variable {value : List Char → Option (Node × List Char)} {fuel : Nat} {items : List Node}

theorem ordered_of_items? (hvalue : ReadsOrdered value)
    (h : items? value fuel cs = some (items, rest)) : ∀ v ∈ items, v.Ordered := by
  induction fuel generalizing cs items rest with
  | zero => cases h
  | succ fuel ih =>
    rw [items?] at h
    split at h
    · obtain ⟨rfl, -⟩ := Prod.mk.inj (Option.some.inj h)
      exact fun _ hv => absurd hv List.not_mem_nil
    · obtain ⟨⟨v, tail⟩, hv, h⟩ := Option.bind_eq_some_iff.mp h
      have hordered := hvalue _ _ _ hv
      dsimp only at h
      split at h
      · obtain ⟨rfl, -⟩ := Prod.mk.inj (Option.some.inj h)
        exact fun _ hu => List.mem_singleton.mp hu ▸ hordered
      · obtain ⟨⟨vs, tail⟩, hvs, h⟩ := Option.bind_eq_some_iff.mp h
        obtain ⟨rfl, -⟩ := Prod.mk.inj (Option.some.inj h)
        exact List.forall_mem_cons.mpr ⟨hordered, ih hvs⟩
      · cases h

theorem ordered_of_members? (hvalue : ReadsOrdered value)
    (h : members? value fuel t cs = some (t', rest)) (ht : t.Ordered) : t'.Ordered := by
  induction fuel generalizing cs t with
  | zero => cases h
  | succ fuel ih =>
    rw [members?] at h
    split at h
    · obtain ⟨rfl, -⟩ := Prod.mk.inj (Option.some.inj h)
      exact ht
    · obtain ⟨⟨⟨path, k⟩, tail⟩, -, h⟩ := Option.bind_eq_some_iff.mp h
      dsimp only at h
      split at h
      · obtain ⟨⟨v, tail⟩, hv, h⟩ := Option.bind_eq_some_iff.mp h
        obtain ⟨next, hnext, h⟩ := Option.bind_eq_some_iff.mp h
        have hordered := Table.keeps_assign (hvalue _ _ _ hv) path k _ _ hnext ht
        split at h
        · obtain ⟨rfl, -⟩ := Prod.mk.inj (Option.some.inj h)
          exact hordered
        · exact ih h hordered
        · cases h
      · cases h

theorem readsOrdered_value? (depth : Nat) : ReadsOrdered (value? depth) := by
  induction depth with
  | zero =>
    intro cs v rest h
    unfold value? at h
    split at h
    · cases h
    · cases h
    · next heq => cases heq
    · next heq => cases heq
    · obtain ⟨⟨s, tail⟩, -, h⟩ := Option.map_eq_some_iff.mp h
      obtain ⟨rfl, -⟩ := Prod.mk.inj h
      exact .leaf
  | succ depth ih =>
    intro cs v rest h
    unfold value? at h
    split at h
    · next heq => cases heq
    · next heq => cases heq
    · next heq =>
      cases heq
      obtain ⟨⟨vs, tail⟩, hvs, h⟩ := Option.map_eq_some_iff.mp h
      obtain ⟨rfl, -⟩ := Prod.mk.inj h
      exact .array (ordered_of_items? ih hvs)
    · next heq =>
      cases heq
      obtain ⟨⟨t, tail⟩, ht, h⟩ := Option.map_eq_some_iff.mp h
      obtain ⟨rfl, -⟩ := Prod.mk.inj h
      have hordered := ordered_of_members? ih ht (Table.ordered_empty .headed)
      exact .table hordered.sorted hordered.values
    · obtain ⟨⟨s, tail⟩, -, h⟩ := Option.map_eq_some_iff.mp h
      obtain ⟨rfl, -⟩ := Prod.mk.inj h
      exact .leaf

end Values

/-! ## Lines -/

variable {d d' : Draft}

theorem ordered_of_header? {ofTables : Bool} (h : header? d ofTables cs = some (d', rest))
    (hd : d.root.Ordered) : d'.root.Ordered := by
  obtain ⟨⟨⟨path, k⟩, tail⟩, -, h⟩ := Option.bind_eq_some_iff.mp h
  dsimp only at h
  -- the brackets at the end are those of the kind of header
  split at h
  · obtain ⟨after, -, hopened⟩ := Option.bind_eq_some_iff.mp h
    rw [if_neg Bool.false_ne_true] at hopened
    obtain ⟨root, hroot, h⟩ := Option.bind_eq_some_iff.mp hopened
    obtain ⟨tail, -, h⟩ := Option.bind_eq_some_iff.mp h
    obtain ⟨rfl, -⟩ := Prod.mk.inj (Option.some.inj h)
    exact Table.keeps_open_ path k _ _ hroot hd
  · obtain ⟨after, -, hopened⟩ := Option.bind_eq_some_iff.mp h
    rw [if_pos rfl] at hopened
    obtain ⟨root, hroot, h⟩ := Option.bind_eq_some_iff.mp hopened
    obtain ⟨tail, -, h⟩ := Option.bind_eq_some_iff.mp h
    obtain ⟨rfl, -⟩ := Prod.mk.inj (Option.some.inj h)
    exact Table.keeps_append path k _ _ hroot hd
  · cases h

theorem ordered_of_member? (h : member? d cs = some (d', rest)) (hd : d.root.Ordered) :
    d'.root.Ordered := by
  obtain ⟨⟨⟨path, k⟩, tail⟩, -, h⟩ := Option.bind_eq_some_iff.mp h
  dsimp only at h
  split at h
  · obtain ⟨⟨v, tail⟩, hv, h⟩ := Option.bind_eq_some_iff.mp h
    obtain ⟨root, hroot, h⟩ := Option.bind_eq_some_iff.mp h
    obtain ⟨tail, -, h⟩ := Option.bind_eq_some_iff.mp h
    obtain ⟨rfl, -⟩ := Prod.mk.inj (Option.some.inj h)
    have hv := readsOrdered_value? maxDepth _ _ _ hv
    exact (Table.keeps_assign hv path k).within false d.header _ _ hroot hd
  · cases h

theorem ordered_of_lines? {fuel : Nat} (h : lines? fuel d cs = some t) (hd : d.root.Ordered) :
    t.Ordered := by
  induction fuel generalizing d cs with
  | zero => cases h
  | succ fuel ih =>
    rw [lines?] at h
    split at h
    · obtain rfl := Option.some.inj h
      exact hd
    · obtain ⟨⟨d', tail⟩, hheader, h⟩ := Option.bind_eq_some_iff.mp h
      exact ih h (ordered_of_header? hheader hd)
    · obtain ⟨⟨d', tail⟩, hheader, h⟩ := Option.bind_eq_some_iff.mp h
      exact ih h (ordered_of_header? hheader hd)
    · split at h
      · obtain rfl := Option.some.inj h
        exact hd
      · obtain ⟨⟨d', tail⟩, hmember, h⟩ := Option.bind_eq_some_iff.mp h
        exact ih h (ordered_of_member? hmember hd)

/-- **The tree of a text is in order**: no table in it has a key twice. -/
theorem ordered_of_parse? (h : parse? cs = some tree) : tree.Ordered := by
  obtain ⟨t, ht, rfl⟩ := Option.map_eq_some_iff.mp h
  exact (ordered_of_lines? ht (Table.ordered_empty .headed)).toNode

end Clearance.Toml
