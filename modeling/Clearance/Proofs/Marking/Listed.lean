import Clearance.Proofs.Marking.Extraction

/-!
# What a payload lists

The attributes of a category stand under a key of the payload: as a text, or in an array of texts
and of objects with a text under `value`.  Two categories have a key that is spelled in two ways.
The first spelling that is present counts, whatever stands under it, and the other one is not looked
at.  Of what stands under the key that counts nothing is lost but blank texts and the names of a
category that is not known, and nothing else is added.

## Main definitions

* `Marking.ofCategory`: the attributes of one category
* `Marking.itemAttribute?`: the attribute that is taken from an item of an array
* `Marking.Lists`: a value lists a text, in one of the three shapes
* `Marking.Counts`: the key of a category that counts in a payload, with its value

## Main results

* `Marking.mem_texts_iff`: the texts of a value are those that it lists
* `Marking.mem_ofPayload_iff`: the attributes of a category, exactly
* `Marking.not_forall_spelling_mem_ofPayload`: what stands under a second spelling may be lost
-/

namespace Clearance.Marking

variable {payload : Fields} {category : Category} {key s : String} {value : Json}

/-- The attributes of one category. -/
def ofCategory (m : Marking) : Category → List Attribute
  | .classification => m.classification
  | .needToKnow => m.needToKnow
  | .relTo => m.relTo

/-- A value lists a text: it is the text, or an array with it, or an array with an object that has
it under `value`. -/
inductive Lists : Json → String → Prop where
  | plain (s : String) : Lists (.string s) s
  | element {items : List Json} {s : String} (mem : .string s ∈ items) : Lists (.array items) s
  | labelled {items : List Json} {item : Json} {s : String} (mem : item ∈ items)
    (value : item.member? "value" = some (.string s)) : Lists (.array items) s

/-- The key of a category that counts in a payload, and its value: no earlier spelling is present. -/
def Counts (payload : Fields) (category : Category) (key : String) (value : Json) : Prop :=
  (∃ before after, keys category = before ++ key :: after ∧ ∀ k ∈ before, payload.get? k = none) ∧
    payload.get? key = some value

/-- The text of an item is the item itself, or stands under `value` in it. -/
theorem itemText?_eq_some_iff {item : Json} :
    itemText? item = some s ↔ item = .string s ∨ item.member? "value" = some (.string s) := by
  cases item with
  | string t => simp [itemText?, Json.member?]
  | object members =>
    simp only [itemText?, Json.member?, Option.bind_eq_some_iff, reduceCtorEq, false_or]
    constructor
    · rintro ⟨v, hv, hs⟩
      cases v with
      | string t =>
        obtain rfl : t = s := Option.some.inj hs
        exact hv
      | _ => cases hs
    · intro hv
      exact ⟨.string s, hv, rfl⟩
  | _ => simp [itemText?, Json.member?]

/-- The attribute that is taken from an item, if any. -/
def itemAttribute? (item : Json) : Option Attribute := (itemText? item).bind attribute?

theorem itemAttribute?_of_itemText? {item : Json} (h : itemText? item = some s) :
    itemAttribute? item = attribute? s := by
  rw [itemAttribute?, h, Option.bind_some]

@[simp] theorem itemAttribute?_string (s : String) :
    itemAttribute? (.string s) = attribute? s := itemAttribute?_of_itemText? (by rw [itemText?])

/-- The attributes of an array are taken from its items one by one. -/
theorem attributes_array (items : List Json) :
    attributes (some (.array items)) = items.filterMap itemAttribute? := by
  rw [attributes_eq, texts, List.filterMap_filterMap]
  rfl

/-- **The texts of a value are those that it lists.** -/
theorem mem_texts_iff : s ∈ texts (some value) ↔ Lists value s := by
  constructor
  · intro h
    cases value with
    | string t =>
      obtain rfl := List.mem_singleton.mp h
      exact .plain s
    | array items =>
      obtain ⟨item, hitem, hs⟩ := List.mem_filterMap.mp h
      obtain rfl | hs := itemText?_eq_some_iff.mp hs
      · exact .element hitem
      · exact .labelled hitem hs
    | _ => cases h
  · intro h
    cases h with
    | plain => exact List.mem_singleton_self s
    | element mem => exact List.mem_filterMap.mpr ⟨_, mem, itemText?_eq_some_iff.mpr (.inl rfl)⟩
    | labelled mem hv => exact List.mem_filterMap.mpr ⟨_, mem, itemText?_eq_some_iff.mpr (.inr hv)⟩

/-- The value that is looked at is that of the key that counts. -/
theorem firstPresent_eq_some_iff :
    firstPresent payload (keys category) = some value ↔
      ∃ key, Counts payload category key value := by
  rw [firstPresent, List.findSome?_eq_some_iff]
  constructor
  · rintro ⟨before, key, after, hkeys, hvalue, hbefore⟩
    exact ⟨key, ⟨before, after, hkeys, hbefore⟩, hvalue⟩
  · rintro ⟨key, ⟨before, after, hkeys, hbefore⟩, hvalue⟩
    exact ⟨before, key, after, hkeys, hvalue, hbefore⟩

theorem isForeign_eq_false_iff {v : Attribute} :
    isForeign v = false ↔ (v.isFqn = true → v.category?.isSome = true) := by
  have hfqn : v.categorySegment?.isSome = v.isFqn := Option.isSome_map
  rw [isForeign, hfqn]
  cases v.isFqn <;> cases v.category? <;> simp

theorem ofCategory_ofPayload (id : String) (payload : Fields) (category : Category) :
    (ofPayload id payload).ofCategory category = listed payload category := by
  cases category <;> rfl

/-- The attributes of a category are those of the value that counts. -/
theorem ofCategory_ofPayload_of_counts (id : String) (h : Counts payload category key value) :
    (ofPayload id payload).ofCategory category = attributes (some value) := by
  rw [ofCategory_ofPayload, listed, firstPresent_eq_some_iff.mpr ⟨key, h⟩]

/-- **The attributes of a category are exactly those that the payload lists** under the key of the
category that counts: the texts in any of the three shapes, trimmed, that are not blank and are no
fully qualified names of a category that is not known. -/
theorem mem_ofPayload_iff {id : String} {v : Attribute} :
    v ∈ (ofPayload id payload).ofCategory category ↔
      ∃ key value s, Counts payload category key value ∧ Lists value s ∧
        v.text = Text.trim s ∧ v.text ≠ "" ∧ (v.isFqn = true → v.category?.isSome = true) := by
  rw [ofCategory_ofPayload, listed, mem_attributes, isForeign_eq_false_iff]
  constructor
  · rintro ⟨⟨s, hs, htrim⟩, hne, hknown⟩
    cases hvalue : firstPresent payload (keys category) with
    | none =>
      -- without a key there are no texts
      rw [hvalue] at hs
      cases hs
    | some value =>
      rw [hvalue] at hs
      obtain ⟨key, hkey⟩ := firstPresent_eq_some_iff.mp hvalue
      exact ⟨key, value, s, hkey, mem_texts_iff.mp hs, htrim.symm, hne, hknown⟩
  · rintro ⟨key, value, s, hkey, hs, htrim, hne, hknown⟩
    have hvalue := firstPresent_eq_some_iff.mpr ⟨key, hkey⟩
    refine ⟨⟨s, ?_, htrim.symm⟩, hne, hknown⟩
    rw [hvalue]
    exact mem_texts_iff.mpr hs

/-- **What stands under a second spelling may be lost**: an empty list under the first spelling is
present, so that it counts. -/
theorem not_forall_spelling_mem_ofPayload :
    ¬ ∀ (id : String) (payload : Fields) (category : Category) (key : String) (value : Json)
      (s : String), key ∈ keys category → payload.get? key = some value → Lists value s →
      Text.trim s ≠ "" →
      ((⟨Text.trim s⟩ : Attribute).isFqn = true →
        (⟨Text.trim s⟩ : Attribute).category?.isSome = true) →
      ⟨Text.trim s⟩ ∈ (ofPayload id payload).ofCategory category := by
  intro hall
  have hlisted := hall "o"
    (.ofList [("attrNeedToKnow", .array []), ("attrNeedtoknow", .array [.string "sigint"])])
    .needToKnow "attrNeedtoknow" (.array [.string "sigint"]) "sigint" (by decide) rfl
    (.element List.mem_cons_self) (by decide) (by decide)
  revert hlisted
  decide

end Clearance.Marking
