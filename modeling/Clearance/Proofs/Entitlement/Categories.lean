import Clearance.Proofs.Distinct
import Clearance.Proofs.Marking.Grammar
import Clearance.Entitlement.Grant

/-!
# The categories of a grant

A grant is shown by category segment.  Repetition is left out twice on the way: of attributes when
the grant is made, and of values within a segment, where one value may come from attributes that
differ in their namespace, their scheme or the case of the fixed words.  What comes of it is an
exact grouping of the list that the grant was made of.

## Main definitions

* `Attribute.Files`: the attribute is a fully qualified name of a value under a category segment
* `Attribute.valueIn?`: the value that an attribute has under a category segment

## Main results

* `Attribute.Files.eq_lastSegment`: the value is what follows the last slash
* `Grant.file_map`: what one more value does to a grouping
* `Grant.place?_eq`: where an attribute is put, by its parts
* `Grant.categorized_ofList`: the grouping as a whole
* `Grant.categorized_exact`: what is in it and in which order
-/

namespace Clearance

open Text

variable {v : Attribute} {c x : String}

/-! ## Values under a category segment -/

/-- The value of a name whose category segment is the given one. -/
def Fqn.valueIn? (c : String) (f : Fqn) : Option String :=
  if f.category = c then some f.value else none

namespace Attribute

/-- The attribute is written as the grammar has it, with the value under the category segment. -/
def Files (v : Attribute) (c x : String) : Prop :=
  ∃ p : Fqn.Spelling, p.text = v.text ∧ p.WellFormed ∧ p.category = c ∧ p.value = x

/-- The value of an attribute that is a fully qualified name with the category segment. -/
def valueIn? (c : String) (v : Attribute) : Option String := v.fqn?.bind (Fqn.valueIn? c)

theorem files_iff : v.Files c x ↔ ∃ f, v.fqn? = some f ∧ f.category = c ∧ f.value = x := by
  constructor
  · rintro ⟨p, htext, hp, hc, hx⟩
    exact ⟨p.toFqn, fqn?_of_spelling htext hp, hc, hx⟩
  · rintro ⟨f, hf, hc, hx⟩
    obtain ⟨p, rfl, htext, hp⟩ := exists_spelling hf
    exact ⟨p, htext, hp, hc, hx⟩

theorem valueIn?_eq_some_iff : v.valueIn? c = some x ↔ v.Files c x := by
  rw [files_iff, valueIn?, Option.bind_eq_some_iff]
  refine exists_congr fun f => and_congr_right fun _ => ?_
  rw [Fqn.valueIn?, Option.ite_none_right_eq_some, Option.some.injEq]

theorem categorySegment?_eq_some_iff : v.categorySegment? = some c ↔ ∃ x, v.Files c x := by
  rw [categorySegment?, Option.map_eq_some_iff]
  simp only [files_iff]
  constructor
  · rintro ⟨f, hf, hc⟩
    exact ⟨f.value, f, hf, hc, rfl⟩
  · rintro ⟨-, f, hf, hc, -⟩
    exact ⟨f, hf, hc⟩

/-- **Both scanners agree on the value**: the last of the parts is what follows the last slash. -/
theorem Files.eq_lastSegment (h : v.Files c x) : x = .ofList (lastSegment v.text.toList) := by
  obtain ⟨p, htext, hp, -, rfl⟩ := h
  have hlast : lastSegment v.text.toList = p.value.toList := by
    rw [← htext, Fqn.Spelling.text, String.toList_append, String.toList_append, List.append_assoc]
    exact lastSegment_append_slash hp.value.2
  rw [hlast, String.ofList_toList]

end Attribute

namespace Grant

/-! ## Putting values under their categories -/

/-- **One more value** goes to the end of the values of its category, which comes last when it is
new. -/
theorem file_map {keys : List String} {values : String → List String} (hkeys : keys.Nodup)
    (hnew : c ∉ keys → values c = []) :
    file c x (keys.map fun k => (k, values k)) =
      (Distinct.add keys c).map fun k =>
        (k, if k = c then Distinct.add (values k) x else values k) := by
  induction keys with
  | nil => simp [file, Distinct.add, hnew]
  | cons k keys ih =>
    obtain ⟨hk, hkeys⟩ := List.nodup_cons.mp hkeys
    rw [List.map_cons, file]
    by_cases hc : k = c
    · subst hc
      -- the category does not come again further on
      have hrest : ∀ d ∈ keys, (d, values d) =
          (d, if d = k then Distinct.add (values d) x else values d) := by
        intro d hd
        rw [if_neg (ne_of_mem_of_not_mem hd hk)]
      rw [if_pos rfl, Distinct.add_of_mem List.mem_cons_self, List.map_cons, if_pos rfl,
        List.map_congr_left hrest]
    · have hadd : Distinct.add (k :: keys) c = k :: Distinct.add keys c := by
        unfold Distinct.add
        split <;> simp_all [Ne.symm hc]
      have hnew' : c ∉ keys → values c = [] := fun h =>
        hnew (List.not_mem_cons_of_ne_of_not_mem (Ne.symm hc) h)
      rw [if_neg hc, ih hkeys hnew', hadd, List.map_cons, if_neg hc]

/-- The names of a list by category, both in the order in which they first occur. -/
theorem foldl_file (fs : List Fqn) :
    fs.foldl (fun acc f => file f.category f.value acc) [] =
      (Distinct.ofList (fs.map (·.category))).map fun c =>
        (c, Distinct.ofList (fs.filterMap (Fqn.valueIn? c))) := by
  induction fs using List.reverseRecOn with
  | nil => rfl
  | append_singleton fs f ih =>
    have hnew : f.category ∉ Distinct.ofList (fs.map (·.category)) →
        Distinct.ofList (fs.filterMap (Fqn.valueIn? f.category)) = [] := by
      intro h
      rw [Distinct.mem_ofList, List.mem_map, not_exists] at h
      have hnone : fs.filterMap (Fqn.valueIn? f.category) = [] := by
        refine List.filterMap_eq_nil_iff.mpr fun g hg => ?_
        exact if_neg fun hc => h g ⟨hg, hc⟩
      rw [hnone]
      rfl
    rw [List.foldl_append, List.foldl_cons, List.foldl_nil, ih,
      file_map (Distinct.nodup_ofList _) hnew, List.map_append, List.map_singleton,
      Distinct.ofList_snoc]
    refine List.map_congr_left fun c _ => ?_
    rw [List.filterMap_append]
    by_cases hc : c = f.category
    · have hvalue : Fqn.valueIn? c f = some f.value := if_pos hc.symm
      rw [if_pos hc, List.filterMap_cons_some hvalue, List.filterMap_nil, Distinct.ofList_snoc]
    · have hvalue : Fqn.valueIn? c f = none := if_neg (Ne.symm hc)
      rw [if_neg hc, List.filterMap_cons_none hvalue, List.filterMap_nil, List.append_nil]

/-- **Where an attribute is put** is told by its parts alone, since the last of them is what follows
its last slash. -/
theorem place?_eq (v : Attribute) : place? v = v.fqn?.map fun f => (f.category, f.value) := by
  rw [place?, Attribute.categorySegment?, Attribute.namespace?]
  cases hf : v.fqn? with
  | none => rfl
  | some f =>
    have hvalue : f.value = .ofList (lastSegment v.text.toList) :=
      (Attribute.files_iff.mpr ⟨f, hf, rfl, rfl⟩).eq_lastSegment
    rw [← hvalue]
    rfl

theorem categorized_eq_foldl (g : Grant) :
    g.categorized =
      (g.values.filterMap Attribute.fqn?).foldl (fun acc f => file f.category f.value acc) [] := by
  have hplace : place? = fun v => v.fqn?.map fun f => (f.category, f.value) := funext place?_eq
  rw [categorized, hplace, ← List.map_filterMap, List.foldl_map]

/-- **The grouping as a whole**: that the grant holds every attribute once does not matter. -/
theorem categorized_ofList (list : List Attribute) :
    (ofList list).categorized =
      (Distinct.ofList (list.filterMap Attribute.categorySegment?)).map fun c =>
        (c, Distinct.ofList (list.filterMap (Attribute.valueIn? c))) := by
  have hkeys : Distinct.ofList (((Distinct.ofList list).filterMap Attribute.fqn?).map (·.category)) =
      Distinct.ofList (list.filterMap Attribute.categorySegment?) := by
    rw [List.map_filterMap]
    exact Distinct.ofList_filterMap_ofList Attribute.categorySegment? list
  have hvalues (c : String) :
      Distinct.ofList (((Distinct.ofList list).filterMap Attribute.fqn?).filterMap
        (Fqn.valueIn? c)) = Distinct.ofList (list.filterMap (Attribute.valueIn? c)) := by
    rw [List.filterMap_filterMap]
    exact Distinct.ofList_filterMap_ofList (Attribute.valueIn? c) list
  rw [categorized_eq_foldl, ofList, foldl_file, hkeys]
  exact List.map_congr_left fun c _ => by rw [hvalues c]

theorem mem_categorized_iff {list : List Attribute} {xs : List String} :
    (c, xs) ∈ (ofList list).categorized ↔
      (∃ v ∈ list, ∃ x, v.Files c x) ∧
        xs = Distinct.ofList (list.filterMap (Attribute.valueIn? c)) := by
  rw [categorized_ofList, List.mem_map]
  constructor
  · rintro ⟨d, hd, hgroup⟩
    obtain ⟨rfl, rfl⟩ := Prod.mk.inj hgroup
    obtain ⟨v, hv, hsegment⟩ := List.mem_filterMap.mp (Distinct.mem_ofList.mp hd)
    exact ⟨⟨v, hv, Attribute.categorySegment?_eq_some_iff.mp hsegment⟩, rfl⟩
  · rintro ⟨⟨v, hv, hfiles⟩, rfl⟩
    refine ⟨c, Distinct.mem_ofList.mpr ?_, rfl⟩
    exact List.mem_filterMap.mpr ⟨v, hv, Attribute.categorySegment?_eq_some_iff.mpr hfiles⟩

/-- Nothing comes of what is no fully qualified name. -/
theorem categorized_ofList_filter_isFqn (list : List Attribute) :
    (ofList (list.filter Attribute.isFqn)).categorized = (ofList list).categorized := by
  have hskip {β : Type} {g : Attribute → Option β} (hg : ∀ v, v.fqn? = none → g v = none) :
      (list.filter Attribute.isFqn).filterMap g = list.filterMap g := by
    rw [List.filterMap_filter]
    refine List.filterMap_congr fun v _ => ?_
    split
    · rfl
    · next hfqn => exact (hg v (by simpa [Attribute.isFqn] using hfqn)).symm
  have hsegment : ∀ v : Attribute, v.fqn? = none → v.categorySegment? = none :=
    fun v hv => by rw [Attribute.categorySegment?, hv, Option.map_none]
  have hvalue (c : String) : ∀ v : Attribute, v.fqn? = none → v.valueIn? c = none :=
    fun v hv => by rw [Attribute.valueIn?, hv, Option.bind_none]
  rw [categorized_ofList, categorized_ofList, hskip hsegment]
  exact List.map_congr_left fun c _ => by rw [hskip (hvalue c)]

/-- **An exact grouping.**  Of the grant that is made of a list, a value stands under a category
segment exactly when the list has a fully qualified name with both, and the value is then what
follows the last slash of that name.  The segments are those of the names of the list, each once,
in the order in which they first occur there.  No segment is without values, and its values are
those of the names of the list with that segment, each once, in the order in which they first occur
there.  What is no fully qualified name might as well be left out of the list. -/
theorem categorized_exact (list : List Attribute) :
    let groups := (ofList list).categorized
    (∀ c x, (∃ xs, (c, xs) ∈ groups ∧ x ∈ xs) ↔ ∃ v ∈ list, v.Files c x) ∧
    (∀ (v : Attribute) (c x : String), v.Files c x → x = .ofList (lastSegment v.text.toList)) ∧
    ((groups.map Prod.fst).Nodup ∧
      Distinct.FirstSeen (fun _ => True) (list.filterMap Attribute.categorySegment?)
        (groups.map Prod.fst)) ∧
    (∀ c xs, (c, xs) ∈ groups → xs ≠ [] ∧ xs.Nodup ∧
      Distinct.FirstSeen (fun _ => True) (list.filterMap (Attribute.valueIn? c)) xs) ∧
    (ofList (list.filter Attribute.isFqn)).categorized = groups := by
  intro groups
  have hkeys : groups.map Prod.fst =
      Distinct.ofList (list.filterMap Attribute.categorySegment?) := by
    have hgroups : groups = _ := categorized_ofList list
    rw [hgroups, List.map_map]
    exact List.map_id _
  refine ⟨fun c x => ?_, fun v c x h => h.eq_lastSegment, ⟨?_, ?_⟩, fun c xs hxs => ?_,
    categorized_ofList_filter_isFqn list⟩
  · constructor
    · rintro ⟨xs, hxs, hx⟩
      obtain ⟨-, rfl⟩ := mem_categorized_iff.mp hxs
      obtain ⟨v, hv, hvalue⟩ := List.mem_filterMap.mp (Distinct.mem_ofList.mp hx)
      exact ⟨v, hv, Attribute.valueIn?_eq_some_iff.mp hvalue⟩
    · rintro ⟨v, hv, hfiles⟩
      refine ⟨_, mem_categorized_iff.mpr ⟨⟨v, hv, x, hfiles⟩, rfl⟩, Distinct.mem_ofList.mpr ?_⟩
      exact List.mem_filterMap.mpr ⟨v, hv, Attribute.valueIn?_eq_some_iff.mpr hfiles⟩
  · rw [hkeys]
    exact Distinct.nodup_ofList _
  · rw [hkeys]
    exact Distinct.firstSeen_ofList _
  · obtain ⟨⟨v, hv, x, hfiles⟩, rfl⟩ := mem_categorized_iff.mp hxs
    have hx : x ∈ Distinct.ofList (list.filterMap (Attribute.valueIn? c)) :=
      Distinct.mem_ofList.mpr
        (List.mem_filterMap.mpr ⟨v, hv, Attribute.valueIn?_eq_some_iff.mpr hfiles⟩)
    exact ⟨List.ne_nil_of_mem hx, Distinct.nodup_ofList _, Distinct.firstSeen_ofList _⟩

/-- One value by two namespaces and two schemes, an attribute given twice, a value that differs in
case, and a name that is not fully qualified. -/
theorem categorized_exact_two_namespaces :
    let list : List Attribute :=
      [⟨"https://a.com/attr/rel-to/value/usa"⟩, ⟨"secret"⟩, ⟨"urn://b.com/Attr/rel-to/VALUE/usa"⟩,
        ⟨"https://a.com/attr/unit/value/7"⟩, ⟨"https://a.com/attr/rel-to/value/usa"⟩,
        ⟨"https://a.com/attr/rel-to/value/USA"⟩]
    let groups := (ofList list).categorized
    let unit : Attribute := ⟨"https://a.com/attr/unit/value/7"⟩
    (groups = [("rel-to", ["usa", "USA"]), ("unit", ["7"])] ∧ unit.Files "unit" "7") ∧
      (∃ v ∈ list, v.Files "rel-to" "USA") ∧ (¬ ∃ v ∈ list, v.Files "unit" "usa") ∧
      "7" = .ofList (lastSegment unit.text.toList) ∧
      Distinct.FirstSeen (fun _ => True) (list.filterMap (Attribute.valueIn? "rel-to"))
        ["usa", "USA"] := by
  intro list groups unit
  have hgroups : groups = [("rel-to", ["usa", "USA"]), ("unit", ["7"])] := by decide +kernel
  have hrelTo : ("rel-to", ["usa", "USA"]) ∈ groups := by
    rw [hgroups]
    exact List.mem_cons_self
  have hunit : unit.Files "unit" "7" :=
    Attribute.files_iff.mpr ⟨⟨"a.com", "unit", "7"⟩, by decide +kernel, rfl, rfl⟩
  obtain ⟨hfiles, hlast, -, hvalues, -⟩ := categorized_exact list
  refine ⟨⟨hgroups, hunit⟩, (hfiles "rel-to" "USA").mp ⟨_, hrelTo, by decide⟩, fun h => ?_,
    hlast unit "unit" "7" hunit, (hvalues "rel-to" _ hrelTo).2.2⟩
  -- the only values of the segment are those of its group
  obtain ⟨xs, hxs, hx⟩ := (hfiles "unit" "usa").mpr h
  have hmem : ("unit", xs) ∈ [("rel-to", ["usa", "USA"]), ("unit", ["7"])] := hgroups ▸ hxs
  obtain rfl : xs = ["7"] := by simpa using hmem
  exact absurd hx (by decide)

end Grant
end Clearance
