import Mathlib.Logic.Relation
import Clearance.Proofs.Marking.Grammar
import Clearance.Proofs.Marking.Listed

/-!
# Shapes of a list

Sources write the same list of attributes in several ways: a single text as it is or in an array, a
text as it is or in an object under `value`, white space around a text, and between the texts other
items that say nothing.  One such list may stand for another under a key of a payload, whichever key
it is, and the same attributes are taken from it, in the same order and as often.  No more than that
may change: lists from which the same attributes are taken differ in nothing else.

A text is trimmed before it is read as a name.  So the name of a category that is not known says
nothing, unless its value is white space alone: without that it is no name any more, and is kept.

## Main definitions

* `Marking.Idle`: an item that says nothing
* `Marking.Reshaping`, `Marking.Reshaped`: one change of shape, and any of them in either direction
* `Marking.plain`: the list of the texts of some attributes

## Main results

* `Marking.reshaped_plain`: every list has a plain form
* `Marking.reshaped_iff`: the lists from which the same attributes are taken
* `Marking.reshaped_exact`: what a change of shape does to a payload
* `Marking.not_forall_foreign_idle`: a name of a category that is not known, and that is kept
-/

namespace Clearance

open Text

namespace Marking

variable {payload : Fields} {category : Category} {key s t : String} {item value value' : Json}

/-! ## Items that say nothing -/

/-- An item that says nothing: it is neither a text nor an object with one under `value`, or it is
a text that is blank, or the name of a category that is not known, with a value that is not
blank. -/
inductive Idle : Json → Prop where
  | null : Idle .null
  | bool (b : Bool) : Idle (.bool b)
  | int (n : Int) : Idle (.int n)
  | real (x : Double) : Idle (.real x)
  | array (items : List Json) : Idle (.array items)
  | object {members : List (String × Json)}
    (h : ∀ s, Keyed.find? "value" members ≠ some (.string s)) : Idle (.object members)
  | blank {s : String} (h : isBlankText s = true) : Idle (.string s)
  | foreign {s : String} {f : Fqn} (hfqn : (⟨s⟩ : Attribute).fqn? = some f)
    (hcategory : Category.ofSlug? f.category = none) (hvalue : isBlankText f.value = false) :
    Idle (.string s)

/-- White space around a text does not matter. -/
theorem attribute?_eq_of_trim (h : trim s = trim t) : attribute? s = attribute? t := by
  rw [attribute?, h, attribute?]

/-- A trimmed text is the name of a category that is not known exactly when the text is such a name
and the value of it is not white space alone. -/
theorem isForeign_trim_iff :
    isForeign ⟨trim s⟩ = true ↔
      ∃ f, (⟨s⟩ : Attribute).fqn? = some f ∧ Category.ofSlug? f.category = none ∧
        isBlankText f.value = false := by
  have htrim := Attribute.fqn?_trim ⟨s⟩
  rw [isForeign, Attribute.category?, Attribute.categorySegment?, htrim]
  cases (⟨s⟩ : Attribute).fqn? with
  | none => simp
  | some f => cases hvalue : isBlankText f.value <;> simp [Fqn.trimmed?, hvalue]

/-- **The texts of which nothing is taken** are those that say nothing. -/
theorem attribute?_eq_none_iff : attribute? s = none ↔ Idle (.string s) := by
  have hnone : attribute? s = none ↔ isBlankText s = true ∨ isForeign ⟨trim s⟩ = true := by
    rw [attribute?, isBlankText_iff]
    split
    · next h => simp [h]
    · next h => simp [h]
  rw [hnone]
  constructor
  · rintro (hblank | hforeign)
    · exact .blank hblank
    · obtain ⟨f, hfqn, hcategory, hvalue⟩ := isForeign_trim_iff.mp hforeign
      exact .foreign hfqn hcategory hvalue
  · intro h
    cases h with
    | blank h => exact .inl h
    | foreign hfqn hcategory hvalue =>
      exact .inr (isForeign_trim_iff.mpr ⟨_, hfqn, hcategory, hvalue⟩)

/-- An item without a text says nothing. -/
theorem idle_of_itemText? (h : itemText? item = none) : Idle item := by
  cases item with
  | null => exact .null
  | bool b => exact .bool b
  | int n => exact .int n
  | real x => exact .real x
  | string s => cases h
  | array items => exact .array items
  | object members =>
    refine .object fun s hs => ?_
    rw [itemText?, hs] at h
    cases h

/-- Nothing is taken from an item that says nothing. -/
theorem Idle.itemAttribute? (h : Idle item) : itemAttribute? item = none := by
  cases h with
  | null => rfl
  | bool b => rfl
  | int n => rfl
  | real x => rfl
  | array items => rfl
  | @object members h =>
    have htext : itemText? (.object members) = none := by
      refine Option.eq_none_iff_forall_not_mem.mpr fun s hs => ?_
      rcases itemText?_eq_some_iff.mp hs with hs | hs
      · cases hs
      · exact h s hs
    rw [Marking.itemAttribute?, htext]
    rfl
  | blank h =>
    rw [itemAttribute?_string]
    exact attribute?_eq_none_iff.mpr (.blank h)
  | foreign hfqn hcategory hvalue =>
    rw [itemAttribute?_string]
    exact attribute?_eq_none_iff.mpr (.foreign hfqn hcategory hvalue)

/-! ## Changes of shape -/

/-- **One change of shape.** -/
inductive Reshaping : Json → Json → Prop where
  /-- An array is put around a text. -/
  | wrap (s : String) : Reshaping (.string s) (.array [.string s])
  /-- A text becomes the `value` of an object, whatever the other members are. -/
  | label (before after : List Json) {s : String} {members : List (String × Json)}
    (h : Keyed.find? "value" members = some (.string s)) :
    Reshaping (.array (before ++ .string s :: after)) (.array (before ++ .object members :: after))
  /-- White space is put around a text. -/
  | pad (before after : List Json) {front back : String} (s : String)
    (hfront : isBlankText front = true) (hback : isBlankText back = true) :
    Reshaping (.array (before ++ .string s :: after))
      (.array (before ++ .string (front ++ s ++ back) :: after))
  /-- An item that says nothing is put in. -/
  | insert (before after : List Json) {item : Json} (h : Idle item) :
    Reshaping (.array (before ++ after)) (.array (before ++ item :: after))

/-- The same list in another shape: changes lead from one to the other, in either direction. -/
def Reshaped : Json → Json → Prop := Relation.EqvGen Reshaping

/-- A value that lists texts, if only one or none. -/
inductive IsListing : Json → Prop where
  | text (s : String) : IsListing (.string s)
  | array (items : List Json) : IsListing (.array items)

/-- The list of the texts of some attributes. -/
def plain (vs : List Attribute) : Json := .array (vs.map fun v => .string v.text)

/-- **A change of shape keeps the attributes**, their order and how often each occurs. -/
theorem Reshaping.attributes_eq (h : Reshaping value value') :
    attributes (some value') = attributes (some value) := by
  cases h with
  | wrap s => rfl
  | @label before after s members h =>
    have hitem : itemAttribute? (.object members) = attribute? s :=
      itemAttribute?_of_itemText? (itemText?_eq_some_iff.mpr (.inr h))
    simp only [attributes_array, List.filterMap_append, List.filterMap_cons, hitem,
      itemAttribute?_string]
  | @pad before after front back s hfront hback =>
    have htrim : trim (front ++ s ++ back) = trim s := by
      apply String.toList_inj.mp
      rw [toList_trim, String.toList_append, String.toList_append, toList_trim]
      exact trimChars_pad (List.all_eq_true.mp hfront) (List.all_eq_true.mp hback) _
    have hattribute : attribute? (front ++ s ++ back) = attribute? s := attribute?_eq_of_trim htrim
    simp only [attributes_array, List.filterMap_append, List.filterMap_cons, itemAttribute?_string,
      hattribute]
  | insert before after h =>
    simp only [attributes_array, List.filterMap_append, List.filterMap_cons, h.itemAttribute?]

theorem Reshaping.reshaped (h : Reshaping value value') : Reshaped value value' := .rel _ _ h

theorem Reshaped.symm (h : Reshaped value value') : Reshaped value' value :=
  Relation.EqvGen.symm _ _ h

theorem Reshaped.trans {other : Json} (h : Reshaped value value') (h' : Reshaped value' other) :
    Reshaped value other := Relation.EqvGen.trans _ _ _ h h'

theorem Reshaped.attributes_eq (h : Reshaped value value') :
    attributes (some value') = attributes (some value) := by
  induction h with
  | rel _ _ h => exact h.attributes_eq
  | refl _ => rfl
  | symm _ _ _ ih => exact ih.symm
  | trans _ _ _ _ _ ih ih' => exact ih'.trans ih

/-! ## The plain form -/

/-- An item may be replaced by the text that it gives. -/
theorem reshaped_text (before after : List Json) (h : itemText? item = some s) :
    Reshaped (.array (before ++ item :: after)) (.array (before ++ .string s :: after)) := by
  rcases itemText?_eq_some_iff.mp h with rfl | hs
  · exact .refl _
  · cases item with
    | object members => exact (Reshaping.label before after hs).reshaped.symm
    | _ => cases hs

/-- An item may be replaced by the text of its attribute, and left out if it has none. -/
theorem reshaped_item (before after : List Json) (item : Json) :
    Reshaped (.array (before ++ item :: after))
      (.array (before ++ ((itemAttribute? item).toList.map fun v => .string v.text) ++ after)) := by
  have hdrop : ∀ {item : Json}, Idle item →
      Reshaped (.array (before ++ item :: after)) (.array (before ++ after)) :=
    fun h => (Reshaping.insert before after h).reshaped.symm
  cases hs : itemText? item with
  | none => simpa [itemAttribute?, hs] using hdrop (idle_of_itemText? hs)
  | some s =>
    refine (reshaped_text before after hs).trans ?_
    cases hv : attribute? s with
    | none => simpa [itemAttribute?, hs, hv] using hdrop (attribute?_eq_none_iff.mp hv)
    | some v =>
      -- the text is that of the attribute, with white space around it
      obtain ⟨front, back, hfront, hback, hpad⟩ := exists_pad s.toList
      have htext : .ofList front ++ v.text ++ .ofList back = s := by
        apply String.toList_inj.mp
        rw [hpad, ← (attribute?_eq_some_iff.mp hv).1]
        simp
      have hpadding := Reshaping.pad before after v.text
        (isBlankText_ofList_iff.mpr hfront) (isBlankText_ofList_iff.mpr hback)
      rw [htext] at hpadding
      simpa [itemAttribute?, hs, hv] using hpadding.reshaped.symm

theorem reshaped_items (before items : List Json) :
    Reshaped (.array (before ++ items))
      (.array (before ++ (items.filterMap itemAttribute?).map fun v => .string v.text)) := by
  induction items generalizing before with
  | nil => exact .refl _
  | cons item items ih =>
    refine (reshaped_item before items item).trans ?_
    have hrest := ih (before ++ (itemAttribute? item).toList.map fun v => .string v.text)
    cases hv : itemAttribute? item with
    | none => simpa [hv] using hrest
    | some v => simpa [hv] using hrest

/-- **Every list has a plain form**: the texts of the attributes that are taken from it. -/
theorem reshaped_plain (h : IsListing value) :
    Reshaped value (plain (attributes (some value))) := by
  cases h with
  | text s =>
    refine (Reshaping.wrap s).reshaped.trans ?_
    rw [← (Reshaping.wrap s).attributes_eq, attributes_array]
    simpa only [List.nil_append, plain] using reshaped_items [] [.string s]
  | array items =>
    rw [attributes_array]
    simpa only [List.nil_append, plain] using reshaped_items [] items

/-- **Lists have the same shape but for such changes** exactly when the same attributes are taken
from them. -/
theorem reshaped_iff (h : IsListing value) (h' : IsListing value') :
    Reshaped value value' ↔ attributes (some value') = attributes (some value) := by
  refine ⟨Reshaped.attributes_eq, fun heq => ?_⟩
  have hplain := reshaped_plain h'
  rw [heq] at hplain
  exact (reshaped_plain h).trans hplain.symm

/-- Texts that say something give attributes one by one. -/
theorem attributes_of_not_idle {ss : List String} (h : ∀ s ∈ ss, ¬ Idle (.string s)) :
    attributes (some (.array (ss.map .string))) = ss.map fun s => ⟨trim s⟩ := by
  have hattribute : ∀ s ∈ ss, attribute? s = some ⟨trim s⟩ := by
    intro s hs
    obtain ⟨v, hv⟩ := Option.ne_none_iff_exists'.mp (mt attribute?_eq_none_iff.mp (h s hs))
    rw [hv, (attribute?_eq_some_iff.mp hv).1]
  rw [attributes_array, List.filterMap_map, ← List.filterMap_eq_map]
  refine List.filterMap_congr fun s hs => ?_
  rw [Function.comp_apply, itemAttribute?_string, hattribute s hs, Function.comp_apply]

/-! ## Payloads -/

/-- Another value with the same attributes under a key of a payload makes no difference, whichever
key is looked at first. -/
theorem attributes_firstPresent_insert (hkey : payload.get? key = some value)
    (h : attributes (some value') = attributes (some value)) (ks : List String) :
    attributes (firstPresent (payload.insert key value') ks) =
      attributes (firstPresent payload ks) := by
  induction ks with
  | nil => rfl
  | cons k ks ih =>
    simp only [firstPresent, List.findSome?_cons, Fields.get?_insert] at ih ⊢
    by_cases hk : k = key
    · rw [if_pos hk, hk, hkey]
      exact h
    · rw [if_neg hk]
      cases payload.get? k with
      | none => exact ih
      | some other => rfl

theorem ofPayload_insert (id : String) (hkey : payload.get? key = some value)
    (h : attributes (some value') = attributes (some value)) :
    ofPayload id (payload.insert key value') = ofPayload id payload := by
  have hlisted : listed (payload.insert key value') = listed payload :=
    funext fun category => attributes_firstPresent_insert hkey h (keys category)
  rw [ofPayload, hlisted, ofPayload]

/-- The key that counts still does with another value. -/
theorem Counts.insert (h : Counts payload category key value) (value' : Json) :
    Counts (payload.insert key value') category key value' := by
  obtain ⟨⟨before, after, hkeys, hbefore⟩, hkey⟩ := h
  refine ⟨⟨before, after, hkeys, fun k hk => ?_⟩, by simp⟩
  have hne : k ≠ key := by
    rintro rfl
    rw [hbefore k hk] at hkey
    cases hkey
  rw [Fields.get?_insert, if_neg hne]
  exact hbefore k hk

/-- **What a change of shape does to a payload.**  Under any key that is present, a value may be
replaced by another shape of it, and the same markings are taken from the payload.

Under the key of a category that counts, no other list leaves the markings as they are.  And for
texts that all say something, the attributes of the category are these texts, trimmed, in their
order and as often as they occur, exactly when the value is another shape of the list of them. -/
theorem reshaped_exact (id : String) (hkey : payload.get? key = some value) :
    (∀ value', Reshaped value value' →
      ofPayload id (payload.insert key value') = ofPayload id payload) ∧
    ∀ category, Counts payload category key value → IsListing value →
      (∀ value', IsListing value' →
        ofPayload id (payload.insert key value') = ofPayload id payload →
          Reshaped value value') ∧
      ∀ ss : List String, (∀ s ∈ ss, ¬ Idle (.string s)) →
        (Reshaped value (.array (ss.map .string)) ↔
          (ofPayload id payload).ofCategory category = ss.map fun s => ⟨trim s⟩) := by
  refine ⟨fun value' h => ofPayload_insert id hkey h.attributes_eq,
    fun category hcounts hvalue => ⟨fun value' hvalue' heq => ?_, fun ss hss => ?_⟩⟩
  · rw [reshaped_iff hvalue hvalue', ← ofCategory_ofPayload_of_counts id hcounts,
      ← ofCategory_ofPayload_of_counts id (hcounts.insert value'), heq]
  · rw [reshaped_iff hvalue (.array _), attributes_of_not_idle hss,
      ofCategory_ofPayload_of_counts id hcounts]
    exact eq_comm

/-- A text with white space around it may stand in an object with other members, among items that
say nothing. -/
theorem reshaped_exact_of_text :
    let payload : Fields := .ofList [("attrRelTo", .string " usa "), ("name", .string "convoy")]
    let foreign := "https://d.com/attr/program/value/x"
    let value' : Json := .array
      [.null, .object [("note", .int 1), ("value", .string "usa")], .string foreign, .string "  "]
    payload.get? "attrRelTo" = some (.string " usa ") ∧
      Counts payload .relTo "attrRelTo" (.string " usa ") ∧ Idle (.string foreign) ∧
      Reshaped (.string " usa ") value' ∧
      ofPayload "o" (payload.insert "attrRelTo" value') = ofPayload "o" payload ∧
      ¬ Idle (.string "usa") ∧ (ofPayload "o" payload).ofCategory .relTo = [⟨"usa"⟩] := by
  intro payload foreign value'
  have hkey : payload.get? "attrRelTo" = some (.string " usa ") := rfl
  have hcounts : Counts payload .relTo "attrRelTo" (.string " usa ") :=
    ⟨⟨[], ["attrRelto"], rfl, by simp⟩, hkey⟩
  have hforeign : Idle (.string foreign) :=
    .foreign (f := ⟨"d.com", "program", "x"⟩) (by decide) (by decide) (by decide)
  have hvalue : Reshaped (.string " usa ") value' :=
    (reshaped_iff (.text _) (.array _)).mpr (by decide)
  have husa : Reshaped (.string " usa ") (.array (["usa"].map .string)) :=
    (reshaped_iff (.text _) (.array _)).mpr (by decide)
  have hnotIdle : ¬ Idle (.string "usa") := mt attribute?_eq_none_iff.mpr (by decide)
  obtain ⟨hkept, hcategory⟩ := reshaped_exact "o" hkey
  obtain ⟨-, htexts⟩ := hcategory .relTo hcounts (.text _)
  exact ⟨hkey, hcounts, hforeign, hvalue, hkept value' hvalue, hnotIdle,
    (htexts ["usa"] (by simpa using hnotIdle)).mp husa⟩

/-- **A name of a category that is not known may be kept**: without the white space that is its
value, the text is no name at all. -/
theorem not_forall_foreign_idle :
    ¬ ∀ (id : String) (payload : Fields) (key s : String) (before after : List Json),
      payload.get? key = some (.array (before ++ after)) → (⟨s⟩ : Attribute).isFqn = true →
      (⟨s⟩ : Attribute).category? = none →
      ofPayload id (payload.insert key (.array (before ++ .string s :: after))) =
        ofPayload id payload := by
  intro hall
  have hkept := hall "o" (.ofList [("attrNeedToKnow", .array [.string "sigint"])])
    "attrNeedToKnow" "https://d.com/attr/program/value/ " [.string "sigint"] [] rfl (by decide)
    (by decide)
  revert hkept
  decide

end Marking
end Clearance
