import Clearance.Proofs.Marking.Grammar
import Clearance.Proofs.Marking.Listed
import Clearance.Proofs.Text.LowerCase

/-!
# Built names

A name is built of a namespace, a category and a value, and put in lower case as a whole.  Lower
case keeps its segments, so that it is read back as the same parts, each in lower case, and it has
no white space at its ends, so that a payload that lists it gives it as it is.

## Main definitions

* `Attribute.builtSpelling`: the spelling of a built name

## Main results

* `Attribute.text_ofParts`, `Attribute.wellFormed_builtSpelling`: a built name is spelled so
* `Attribute.simpleName_ofParts`: its simple name
* `Marking.attributes_array_append`, `Marking.attributes_array_cons`: the attributes of an array,
  piece by piece
* `Attribute.ofParts_exact`: built names are read back
-/

namespace Clearance

open Text

variable {namespaceName value : String} {category : Category} {v : Attribute}

namespace Attribute

/-- The spelling of a built name. -/
def builtSpelling (namespaceName : String) (category : Category) (value : String) :
    Fqn.Spelling where
  namespaceName := lower (trim namespaceName)
  category := category.segment
  value := lower (trim value)
  scheme := "https"
  attrWord := "attr"
  valueWord := "value"

/-! ## The text of a built name -/

theorem lowerChars_segment (category : Category) :
    lowerChars category.segment.toList = category.segment.toList := by
  cases category <;> decide

/-- **A built name** is put in lower case segment by segment. -/
theorem text_ofParts (namespaceName : String) (category : Category) (value : String) :
    (ofParts namespaceName category value).text =
      (builtSpelling namespaceName category value).text := by
  -- cut at its slashes, at which lower case begins anew
  have hwhole : ("https://" ++ trim namespaceName ++ "/attr/" ++ category.segment ++ "/value/" ++
      trim value).toList =
        "https:".toList ++ '/' :: ([] ++ '/' :: ((trim namespaceName).toList ++ '/' ::
          ("attr".toList ++ '/' :: (category.segment.toList ++ '/' ::
            ("value".toList ++ '/' :: (trim value).toList))))) := by
    simp
  have hhttps : lowerChars "https:".toList = "https:".toList := by decide
  have hattr : lowerChars "attr".toList = "attr".toList := by decide
  have hvalue : lowerChars "value".toList = "value".toList := by decide
  apply String.toList_inj.mp
  rw [ofParts, toList_lower, hwhole]
  simp only [lowerChars_append_slash, lowerChars_segment, hhttps, hattr, hvalue]
  simp [builtSpelling, Fqn.Spelling.text, lowerChars, lowerAfter]

theorem segment_is_segment (category : Category) :
    category.segment ≠ "" ∧ '/' ∉ category.segment.toList := by
  cases category <;> decide

theorem lower_ne_empty {s : String} (h : s ≠ "") : lower s ≠ "" := by
  intro he
  rw [lower, String.ofList_eq_empty_iff, lowerChars_eq_nil_iff] at he
  exact h (String.toList_eq_nil_iff.mp he)

theorem slash_not_mem_lower {s : String} (h : '/' ∉ s.toList) : '/' ∉ (lower s).toList := by
  rw [toList_lower]
  exact slash_not_mem_lowerChars h

/-- **The spelling of a built name is well-formed** if its namespace and its value are segments. -/
theorem wellFormed_builtSpelling (hn : trim namespaceName ≠ "")
    (hn' : '/' ∉ (trim namespaceName).toList) (hv : trim value ≠ "")
    (hv' : '/' ∉ (trim value).toList) :
    (builtSpelling namespaceName category value).WellFormed where
  first := by
    rw [← Fqn.Spelling.splitScheme_text_iff, Fqn.Spelling.toList_text]
    simp [builtSpelling, splitScheme]
  namespaceName := ⟨lower_ne_empty hn, slash_not_mem_lower hn'⟩
  attrWord := by simp only [builtSpelling]; decide
  category := segment_is_segment category
  valueWord := by simp only [builtSpelling]; decide
  value := ⟨lower_ne_empty hv, slash_not_mem_lower hv'⟩

theorem ofSlug?_segment (category : Category) :
    Category.ofSlug? category.segment = some category := by
  cases category <;> decide

theorem trim_lower_trim (s : String) : trim (lower (trim s)) = lower (trim s) := by
  have htrimmed : Trimmed (lower (trim s)).toList := by
    rw [toList_lower, toList_trim]
    exact (trimmed_trimChars _).lowerChars
  rw [trim, htrimmed.trimChars_eq, String.ofList_toList]

/-- **The simple name of a built name** is its value, in lower case and then in upper case. -/
theorem simpleName_ofParts (hv : '/' ∉ (trim value).toList) :
    (ofParts namespaceName category value).simpleName = upper (lower (trim value)) := by
  rw [simpleName_of_text_eq (text_ofParts namespaceName category value) (slash_not_mem_lower hv)]
  exact congrArg upper (trim_lower_trim value)

/-- A built name has no white space at its ends. -/
theorem trim_text_ofParts (hv : trim value ≠ "") :
    trim (ofParts namespaceName category value).text =
      (ofParts namespaceName category value).text := by
  have htrimmed : Trimmed ("https://" ++ trim namespaceName ++ "/attr/" ++ category.segment ++
      "/value/" ++ trim value).toList := by
    constructor
    · simp [isBlank]
    · intro c hc
      have hne : trimChars value.toList ≠ [] := by simpa [trim] using hv
      rw [String.toList_append, toList_trim, List.getLast?_append_of_ne_nil _ hne] at hc
      exact (trimmed_trimChars _).last c hc
  have hlower := htrimmed.lowerChars.trimChars_eq
  rw [trim, ofParts, toList_lower, hlower]
  rfl

end Attribute

/-! ## Listed names -/

namespace Marking

theorem attributes_string (htrim : trim v.text = v.text) (hne : v.text ≠ "")
    (hforeign : isForeign v = false) : attributes (some (.string v.text)) = [v] := by
  rw [attributes_eq, texts, List.filterMap_cons_some, List.filterMap_nil]
  exact attribute?_eq_some_iff.mpr ⟨htrim, hne, hforeign⟩

/-- The attributes of an array are those of its items, in their order. -/
theorem attributes_array_append (xs ys : List Json) :
    attributes (some (.array (xs ++ ys))) =
      attributes (some (.array xs)) ++ attributes (some (.array ys)) := by
  simp only [attributes_array, List.filterMap_append]

/-- An item of an array counts as its text. -/
theorem attributes_array_cons {item : Json} {s : String} (h : itemText? item = some s)
    (items : List Json) :
    attributes (some (.array (item :: items))) =
      attributes (some (.string s)) ++ attributes (some (.array items)) := by
  have htext : attributes (some (.string s)) = [item].filterMap itemAttribute? := by
    simp only [attributes_eq, texts, List.filterMap_cons, itemAttribute?_of_itemText? h,
      List.filterMap_nil]
  rw [htext, attributes_array, attributes_array, ← List.filterMap_append, List.singleton_append]

end Marking

namespace Attribute

/-- **Built names are read back.**  If namespace and value are not blank and their trimmed texts
have no slash, a built name is a fully qualified name.  Its category is the one it was built with,
its namespace is the trimmed one in lower case, and its simple name is the trimmed value in lower
case and then in upper case.  It is trimmed, and every payload that lists it under a key that counts
gives it as it is: alone where it is the value of the key, and in its place where it stands in an
array, by itself or under `value`. -/
theorem ofParts_exact (namespaceName value : String) (category : Category)
    (hn : isBlankText namespaceName = false) (hn' : '/' ∉ (trim namespaceName).toList)
    (hv : isBlankText value = false) (hv' : '/' ∉ (trim value).toList) :
    let v := ofParts namespaceName category value
    v.isFqn = true ∧ v.category? = some category ∧
    v.namespace? = some (lower (trim namespaceName)) ∧
    v.simpleName = upper (lower (trim value)) ∧
    trim v.text = v.text ∧
    ∀ id payload field key,
      (Marking.Counts payload field key (.string v.text) →
        (Marking.ofPayload id payload).ofCategory field = [v]) ∧
      ∀ before item after,
        (item = .string v.text ∨ item.member? "value" = some (.string v.text)) →
        Marking.Counts payload field key (.array (before ++ item :: after)) →
        (Marking.ofPayload id payload).ofCategory field =
          Marking.attributes (some (.array before)) ++
            v :: Marking.attributes (some (.array after)) := by
  intro v
  have hn : trim namespaceName ≠ "" := by rwa [ne_eq, ← isBlankText_iff, Bool.not_eq_true]
  have hv : trim value ≠ "" := by rwa [ne_eq, ← isBlankText_iff, Bool.not_eq_true]
  have hf : v.fqn? = some (builtSpelling namespaceName category value).toFqn :=
    fqn?_of_spelling (text_ofParts ..).symm (wellFormed_builtSpelling hn hn' hv hv')
  have hcategory : v.category? = some category := by
    simp [category?, categorySegment?, hf, builtSpelling, ofSlug?_segment]
  have htrim : trim v.text = v.text := trim_text_ofParts hv
  -- it is listed since it is neither blank nor a name of an unknown category
  have hlisted : Marking.attributes (some (.string v.text)) = [v] := by
    refine Marking.attributes_string htrim (fun hempty => ?_) ?_
    · rw [text_ofParts] at hempty
      simp [Fqn.Spelling.text] at hempty
    · exact Marking.isForeign_eq_false_iff.mpr fun _ => by simp [hcategory]
  refine ⟨by simp [isFqn, hf], hcategory, by simp [namespace?, hf, builtSpelling],
    simpleName_ofParts hv', htrim, fun id payload field key => ⟨fun hcounts => ?_, ?_⟩⟩
  · rw [Marking.ofCategory_ofPayload, Marking.listed,
      Marking.firstPresent_eq_some_iff.mpr ⟨key, hcounts⟩, hlisted]
  · intro before item after hitem hcounts
    rw [Marking.ofCategory_ofPayload, Marking.listed,
      Marking.firstPresent_eq_some_iff.mpr ⟨key, hcounts⟩, Marking.attributes_array_append,
      Marking.attributes_array_cons (Marking.itemText?_eq_some_iff.mpr hitem), hlisted]
    rfl

/-- The last sigma of a value is written in its final form, and comes back as the capital. -/
theorem ofParts_exact_final_sigma :
    let v := ofParts " Example.COM " .needToKnow "ΟΔΟΣ"
    isBlankText " Example.COM " = false ∧ '/' ∉ (trim " Example.COM ").toList ∧
      isBlankText "ΟΔΟΣ" = false ∧ '/' ∉ (trim "ΟΔΟΣ").toList ∧
      v.text = "https://example.com/attr/needtoknow/value/οδος" ∧
      v.namespace? = some "example.com" ∧ v.category? = some .needToKnow ∧ v.simpleName = "ΟΔΟΣ" ∧
      (Marking.ofPayload "o" (.ofList [("attrNeedtoknow",
        .array [.string " int ", .object [("value", .string v.text)]])])).needToKnow =
          [⟨"int"⟩, v] := by
  intro v
  have hn : isBlankText " Example.COM " = false := by decide
  have hn' : '/' ∉ (trim " Example.COM ").toList := by decide
  have hv : isBlankText "ΟΔΟΣ" = false := by decide
  have hv' : '/' ∉ (trim "ΟΔΟΣ").toList := by decide
  obtain ⟨-, hcategory, hnamespace, hname, -, hlisted⟩ :=
    ofParts_exact " Example.COM " "ΟΔΟΣ" .needToKnow hn hn' hv hv'
  refine ⟨hn, hn', hv, hv', by decide +kernel, ?_, hcategory, ?_, ?_⟩
  · rw [hnamespace]
    decide +kernel
  · rw [hname]
    decide +kernel
  · exact (hlisted "o" _ .needToKnow "attrNeedtoknow").2 [.string " int "] _ [] (.inr rfl)
      ⟨⟨["attrNeedToKnow"], [], rfl, List.forall_mem_singleton.mpr rfl⟩, rfl⟩

end Attribute
end Clearance
