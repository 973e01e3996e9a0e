import Clearance.Proofs.Catalog.Arrangement
import Clearance.Proofs.Marking.Level
import Clearance.Proofs.Release.AsWritten

/-!
# Labels and names

A person picks an entry by its label, which is the whole value in upper case.  Access is decided on
the simple name of the attribute that the entry hands out, which is the last segment of the value,
in lower case and then in upper case.  The two are the same exactly where the label has no slash and
no capital that does not come back from lower case.

So a label never says more than the name: the level and the priority that the catalog reads off a
label are those of the name.  Where the two differ, a level or a priority of the name is overlooked.

## Main definitions

* `Text.Plain`: a text without slashes and one-way capitals
* `Catalog.Entry.IsPlain`: the label of an entry is such a text

## Main results

* `Catalog.label_eq_simpleName_iff`: the entries whose label is the simple name
* `Catalog.label_eq_iff_of_plain`: an entry labelled with a given plain name
* `Catalog.levels_eq`, `Catalog.levels_eq_iff`: the levels that are read off the labels
* `Catalog.labels_exact`: what the catalog says by label and by name
* `Catalog.not_forall_labels_agree`: a level and a priority that are overlooked
-/

namespace Clearance

open Text

/-! ## Plain texts -/

/-- A text without a slash, all of whose letters come back from lower case. -/
structure Text.Plain (cs : List Char) : Prop where
  slash : '/' ∉ cs
  back : ∀ c ∈ cs, c ∉ oneWayCapitals

instance (cs : List Char) : Decidable (Plain cs) :=
  decidable_of_iff ((cs.all fun c => c ≠ '/' ∧ c ∉ oneWayCapitals) = true) <| by
    rw [List.all_eq_true]
    refine ⟨fun h => ⟨fun hslash => ?_, fun c hc => ?_⟩, fun h c hc => ?_⟩
    · simpa using h '/' hslash
    · exact (of_decide_eq_true (h c hc)).2
    · exact decide_eq_true ⟨ne_of_mem_of_not_mem hc h.slash, h.back c hc⟩

/-- Upper case keeps slashes and one-way capitals, and brings none in. -/
theorem Text.plain_upperChars_iff {cs : List Char} : Plain (upperChars cs) ↔ Plain cs := by
  constructor
  · intro h
    refine ⟨fun hslash => h.slash (slash_mem_upperChars_iff.mpr hslash), fun c hc hone => ?_⟩
    exact h.back c ((mem_upperChars_iff_of_oneWay hone).mpr hc) hone
  · intro h
    refine ⟨fun hslash => h.slash (slash_mem_upperChars_iff.mp hslash), fun c hc hone => ?_⟩
    exact h.back c ((mem_upperChars_iff_of_oneWay hone).mp hc) hone

theorem Level.plain_name (l : Level) : Plain l.name.toList := by
  cases l <;> decide

namespace Catalog

variable {namespaceName value n : String} {category : Category} {l : Level} {e : Entry}
  {p : Policy}

theorem plain_of_mem_priorityCodes (h : n ∈ priorityCodes) : Plain n.toList := by
  revert n
  decide

/-! ## One entry -/

/-- The label of an entry has no slash and no one-way capital. -/
def Entry.IsPlain (e : Entry) : Prop := Plain e.label.toList

instance (e : Entry) : Decidable e.IsPlain := inferInstanceAs (Decidable (Plain _))

/-- **The label of an entry is the simple name** of its attribute exactly when it is plain. -/
theorem label_eq_simpleName_iff :
    (entryOf namespaceName category value).label =
        (entryOf namespaceName category value).value.simpleName ↔
      (entryOf namespaceName category value).IsPlain := by
  have hplain : (entryOf namespaceName category value).IsPlain ↔ Plain (trim value).toList := by
    rw [Entry.IsPlain, entryOf, toList_upper, plain_upperChars_iff]
  -- without a slash the label is the simple name of the value as it is written
  have hlabel (hslash : '/' ∉ (trim value).toList) :
      (entryOf namespaceName category value).label =
          (entryOf namespaceName category value).value.simpleName ↔
        ∀ c ∈ (trim value).toList, c ∉ oneWayCapitals := by
    rw [← Attribute.sameValue_ofParts_iff hslash, Attribute.sameValue, decide_eq_true_iff,
      Attribute.simpleName_of_slash_not_mem hslash]
    exact eq_comm
  rw [hplain]
  constructor
  · intro h
    have hslash : '/' ∉ (trim value).toList := by
      rw [← slash_mem_upperChars_iff, ← toList_upper]
      have hname := Attribute.slash_not_mem_simpleName
        (entryOf namespaceName category value).value
      rwa [← h] at hname
    exact ⟨hslash, (hlabel hslash).mp h⟩
  · rintro ⟨hslash, hback⟩
    exact (hlabel hslash).mpr hback

/-- An entry is labelled with a given plain name exactly when this is its simple name and the label
is plain. -/
theorem label_eq_iff_of_plain (hn : Plain n.toList) :
    (entryOf namespaceName category value).label = n ↔
      (entryOf namespaceName category value).value.simpleName = n ∧
        (entryOf namespaceName category value).IsPlain := by
  constructor
  · intro h
    have hplain : (entryOf namespaceName category value).IsPlain := by rwa [Entry.IsPlain, h]
    exact ⟨label_eq_simpleName_iff.mpr hplain ▸ h, hplain⟩
  · rintro ⟨hname, hplain⟩
    rw [label_eq_simpleName_iff.mpr hplain, hname]

/-- Labels are in normal form. -/
theorem upper_trim_label :
    upper (trim (entryOf namespaceName category value).label) =
      (entryOf namespaceName category value).label := by
  have htrimmed : Trimmed (upperChars (trimChars value.toList)) :=
    (trimmed_trimChars value.toList).upperChars
  rw [entryOf, upper, toList_trim, toList_upper, toList_trim, htrimmed.trimChars_eq,
    upperChars_upperChars, upper, toList_trim]

/-- **The level of a label** is the level of the name if the label is plain, and none else. -/
theorem ofName?_label :
    Level.ofName? (entryOf namespaceName category value).label =
      if (entryOf namespaceName category value).IsPlain then
        (entryOf namespaceName category value).value.level?
      else none := by
  refine Option.ext fun l => ?_
  rw [Level.ofName?_eq_some_iff, upper_trim_label, eq_comm, label_eq_iff_of_plain l.plain_name,
    ← Attribute.level?_eq_some_iff]
  split
  · next h => rw [and_iff_left h]
  · next h => simp [h]

/-- **The group of a release** is the priority group exactly when its name is one of the priority
codes and its label is plain. -/
theorem group_eq_priority_iff :
    (entryOf namespaceName .relTo value).group = some "priority" ↔
      (entryOf namespaceName .relTo value).value.simpleName ∈ priorityCodes ∧
        (entryOf namespaceName .relTo value).IsPlain := by
  have hgroup : (entryOf namespaceName .relTo value).group = some "priority" ↔
      (entryOf namespaceName .relTo value).label ∈ priorityCodes := by
    simp [entryOf, groupOf]
  rw [hgroup]
  constructor
  · intro h
    obtain ⟨hname, hplain⟩ := (label_eq_iff_of_plain (plain_of_mem_priorityCodes h)).mp rfl
    exact ⟨hname ▸ h, hplain⟩
  · rintro ⟨hname, hplain⟩
    rwa [label_eq_simpleName_iff.mpr hplain]

/-! ## All entries -/

/-- Every entry of a catalog is that of a value. -/
theorem exists_eq_entryOf (category : Category) (h : e ∈ (ofPolicy p).entries category) :
    ∃ value, e = entryOf p.namespaceName category value := by
  have hentries : e ∈ entriesOf p category := by
    cases category with
    | classification => exact h
    | needToKnow => exact h
    | relTo => exact List.mem_mergeSort.mp h
  rw [entriesOf_eq] at hentries
  obtain ⟨value, -, rfl⟩ := List.mem_map.mp hentries
  exact ⟨value, rfl⟩

/-- A choice of the elements loses nothing of what a function gives exactly when it keeps all for
which the function gives something. -/
theorem filterMap_filter_eq_iff {α β : Type} {keep : α → Bool} {f : α → Option β} {xs : List α} :
    (xs.filter keep).filterMap f = xs.filterMap f ↔ ∀ x ∈ xs, f x ≠ none → keep x = true := by
  induction xs with
  | nil => simp
  | cons x xs ih =>
    rw [List.forall_mem_cons, ← ih, List.filter_cons]
    cases hx : f x with
    | none => cases keep x <;> simp [hx]
    | some b =>
      cases keep x with
      | true => simp [hx]
      | false =>
        -- one element is lost, and the others cannot make up for it
        have hlength : ((xs.filter keep).filterMap f).length ≤ (xs.filterMap f).length :=
          (List.filter_sublist.filterMap f).length_le
        simp only [Bool.false_eq_true, if_false, List.filterMap_cons_some hx, ne_eq,
          reduceCtorEq, not_false_eq_true, forall_const, false_and, iff_false]
        intro h
        rw [h, List.length_cons] at hlength
        omega

/-- The levels of a catalog are those of the names of its plain entries. -/
theorem levels_eq (p : Policy) :
    (ofPolicy p).levels =
      ((ofPolicy p).classification.filter fun e => e.IsPlain).filterMap
        fun e => e.value.level? := by
  rw [levels, List.filterMap_filter]
  refine List.filterMap_congr fun e he => ?_
  obtain ⟨value, rfl⟩ := exists_eq_entryOf .classification he
  simp only [ofName?_label, decide_eq_true_eq]

/-- The levels that the simple names of the classifications name. -/
theorem filterMap_simpleNames (c : Catalog) :
    (c.simpleNames .classification).filterMap Level.ofName? =
      c.classification.filterMap fun e => e.value.level? := by
  have hnames : c.simpleNames .classification = c.classification.map fun e => e.value.simpleName :=
    rfl
  rw [hnames, List.filterMap_map]
  simp only [Function.comp_def, Attribute.level?]

/-- **The levels by label are those by name** exactly when every entry with a level is plain. -/
theorem levels_eq_iff (p : Policy) :
    (ofPolicy p).levels = ((ofPolicy p).simpleNames .classification).filterMap Level.ofName? ↔
      ∀ e ∈ (ofPolicy p).classification, e.value.level? ≠ none → e.IsPlain := by
  rw [levels_eq, filterMap_simpleNames, filterMap_filter_eq_iff]
  simp only [decide_eq_true_eq]

/-- **Labels and names.**  The label of an entry is the simple name of its attribute exactly when it
has no slash and no one-way capital.

* The level of a label is that of the name if the label is plain, and there is none else.
* So the levels of a catalog are some of those of its names, in their order, and all of them exactly
  when every classification whose name is a level is plain.
* A release is in the priority group exactly when its simple name is one of the priority codes and
  its label is plain. -/
theorem labels_exact (p : Policy) :
    let c := ofPolicy p
    (∀ category, ∀ e ∈ c.entries category, e.label = e.value.simpleName ↔ e.IsPlain) ∧
    (∀ e ∈ c.classification,
      Level.ofName? e.label = if e.IsPlain then Level.ofName? e.value.simpleName else none) ∧
    c.levels.Sublist ((c.simpleNames .classification).filterMap Level.ofName?) ∧
    (c.levels = (c.simpleNames .classification).filterMap Level.ofName? ↔
      ∀ e ∈ c.classification, Level.ofName? e.value.simpleName ≠ none → e.IsPlain) ∧
    ∀ e ∈ c.relTo,
      e.group = some "priority" ↔ e.value.simpleName ∈ priorityCodes ∧ e.IsPlain := by
  intro c
  refine ⟨fun category e he => ?_, fun e he => ?_, ?_, levels_eq_iff p, fun e he => ?_⟩
  · obtain ⟨value, rfl⟩ := exists_eq_entryOf category he
    exact label_eq_simpleName_iff
  · obtain ⟨value, rfl⟩ := exists_eq_entryOf .classification he
    exact ofName?_label
  · rw [levels_eq, filterMap_simpleNames]
    exact List.filter_sublist.filterMap _
  · obtain ⟨value, rfl⟩ := exists_eq_entryOf .relTo he
    exact group_eq_priority_iff

/-- A value with a slash does no harm where its last segment is no level, nor does a capital sharp s
among the needs to know. -/
theorem labels_exact_of_harmless :
    let p : Policy := ⟨"d.com", [⟨"classification", ["Secret", "eyes/only"]⟩,
      ⟨"need_to_know", ["GROẞ"]⟩, ⟨"Rel-To", [" usa "]⟩]⟩
    let c := ofPolicy p
    let sharp := entryOf "d.com" .needToKnow "GROẞ"
    let usa := entryOf "d.com" .relTo " usa "
    (∀ e ∈ c.classification, Level.ofName? e.value.simpleName ≠ none → e.IsPlain) ∧
      c.levels = (c.simpleNames .classification).filterMap Level.ofName? ∧
      (sharp ∈ c.entries .needToKnow ∧ ¬ sharp.IsPlain ∧ sharp.label ≠ sharp.value.simpleName) ∧
      usa ∈ c.relTo ∧ usa.value.simpleName = "USA" ∧ usa.group = some "priority" := by
  intro p c sharp usa
  obtain ⟨hlabel, -, -, hlevels, hgroup⟩ := labels_exact p
  have hplain : ∀ e ∈ c.classification, Level.ofName? e.value.simpleName ≠ none → e.IsPlain := by
    decide +kernel
  have hsharp : sharp ∈ c.entries .needToKnow := List.mem_singleton_self _
  have hnotPlain : ¬ sharp.IsPlain := by decide +kernel
  have husa : usa ∈ c.relTo := List.mem_mergeSort.mpr (List.mem_singleton_self _)
  have hname : usa.value.simpleName = "USA" := by decide +kernel
  refine ⟨hplain, hlevels.mpr hplain,
    ⟨hsharp, hnotPlain, fun h => hnotPlain ((hlabel _ _ hsharp).mp h)⟩, husa, hname, ?_⟩
  exact (hgroup usa husa).mpr ⟨by rw [hname]; decide, by decide +kernel⟩

/-- **A level and a priority are overlooked** where the last segment of a value is a level or a
priority code and the whole value is not, and where a letter of the value comes back from lower case
as another one. -/
theorem not_forall_labels_agree :
    (¬ ∀ p, (ofPolicy p).levels =
      ((ofPolicy p).simpleNames .classification).filterMap Level.ofName?) ∧
    (¬ ∀ p, ∀ e ∈ (ofPolicy p).relTo,
      e.group = some "priority" ↔ e.value.simpleName ∈ priorityCodes) ∧
    let c := ofPolicy ⟨"d.com", [⟨"classification", ["a/secret", "UNCLAẞIFIED"]⟩]⟩
    c.levels = [] ∧
      (c.simpleNames .classification).filterMap Level.ofName? = [.secret, .unclassified] := by
  refine ⟨fun h => ?_, fun h => ?_, by decide +kernel⟩
  · have hsecret := h ⟨"d.com", [⟨"classification", ["a/secret"]⟩]⟩
    revert hsecret
    decide +kernel
  · have husa := h ⟨"d.com", [⟨"relto", ["x/usa"]⟩]⟩ (entryOf "d.com" .relTo "x/usa")
      (List.mem_mergeSort.mpr (List.mem_singleton_self _))
    revert husa
    decide +kernel

end Catalog
end Clearance
