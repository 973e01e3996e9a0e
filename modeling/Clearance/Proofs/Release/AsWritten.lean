import Clearance.Proofs.Entitlement.Run
import Clearance.Proofs.Marking.Built
import Clearance.Proofs.Release.Decision

/-!
# Values as they are written

A catalog builds the name of a value in lower case, while a principal may have been granted the
value as it is written.  The two are compared in upper case.  Lower case changes nothing about that,
but for the few capitals that do not come back from it: a value with one of them is another value
than the one that the catalog names.

## Main definitions

* `Marking.only`: an object with one attribute

## Main results

* `Attribute.sameValue_ofParts_iff`: when a built name is the value as it is written
* `explain_only_iff`: when an object with one attribute is shown
* `Attribute.sameValue_ofParts_exact`: when a grant of the value as it is written opens what is
  marked with the built name
-/

namespace Clearance

open Text

variable {namespaceName value : String} {category field : Category} {v w : Attribute}

/-! ## Names as they are written -/

namespace Attribute

/-- The simple name of a text without a slash is the whole text. -/
theorem simpleName_of_slash_not_mem (hv : '/' ∉ (trim v.text).toList) :
    v.simpleName = upper (trim v.text) := by
  rw [toList_trim] at hv
  rw [simpleName, simpleNameChars, lastSegment_of_not_mem hv, trimChars_trimChars, upper,
    toList_trim]

/-- **A built name is the value as it is written** exactly when every letter of the value comes back
from lower case. -/
theorem sameValue_ofParts_iff (hv : '/' ∉ (trim value).toList) :
    (ofParts namespaceName category value).sameValue ⟨value⟩ = true ↔
      ∀ c ∈ (trim value).toList, c ∉ oneWayCapitals := by
  have hwritten : (⟨value⟩ : Attribute).simpleName = upper (trim value) :=
    simpleName_of_slash_not_mem hv
  rw [← upperChars_lowerChars_eq_iff, sameValue, decide_eq_true_iff, simpleName_ofParts hv,
    hwritten, upper, upper, toList_lower, String.ofList_inj]

end Attribute

/-! ## An object with one attribute -/

/-- An object with one attribute. -/
def Marking.only (id : String) (v : Attribute) : Category → Marking
  | .classification => { id, classification := [v] }
  | .needToKnow => { id, needToKnow := [v] }
  | .relTo => { id, relTo := [v] }

/-- **An object with one attribute** is shown exactly when its name is held, unless it is empty. -/
theorem explain_only_iff {id : String} {a : ActiveSet} :
    explain (.only id v field) a = .allowed ↔
      (v.simpleName ≠ "" → a.holds v.simpleName = true) := by
  rw [explain_eq_allowed_iff, Marking.allHeld_iff, Marking.releaseMet_iff]
  by_cases hn : v.simpleName = "" <;> cases field <;> simp [Marking.only, hn]

/-- A granted value opens every object that is marked with the same value, and is sure to open it
only then. -/
theorem explain_only_of_granted_iff {id : String} :
    (∀ granted, w ∈ granted → explain (.only id v field) (.full (.ofList granted)) = .allowed) ↔
      v.simpleName = "" ∨ v.sameValue w = true := by
  simp only [explain_only_iff, ActiveSet.holds_full_ofList, Attribute.sameValue, decide_eq_true_iff,
    or_iff_not_imp_left]
  constructor
  · intro h hn
    obtain ⟨-, w', hw', hname⟩ := h [w] (List.mem_singleton_self w) hn
    rw [← hname, List.mem_singleton.mp hw']
  · intro h granted hw hn
    exact ⟨hn, w, hw, (h hn).symm⟩

namespace Attribute

/-- **Values as they are written.**  If the trimmed text of a value has no slash, its built name
names the same value as the text itself exactly when none of its letters is one of the capitals that
do not come back from lower case.  Exactly then every grant of the value as it is written opens the
objects that are marked with the built name, whatever the category they are marked in. -/
theorem sameValue_ofParts_exact (namespaceName value : String) (category : Category)
    (hv : '/' ∉ (trim value).toList) :
    let v := ofParts namespaceName category value
    (v.sameValue ⟨value⟩ = true ↔ ∀ c ∈ (trim value).toList, c ∉ oneWayCapitals) ∧
    ∀ id field,
      (∀ granted, ⟨value⟩ ∈ granted →
        explain (.only id v field) (.full (.ofList granted)) = .allowed) ↔
      ∀ c ∈ (trim value).toList, c ∉ oneWayCapitals := by
  intro v
  have hsame : v.sameValue ⟨value⟩ = true ↔ ∀ c ∈ (trim value).toList, c ∉ oneWayCapitals :=
    sameValue_ofParts_iff hv
  refine ⟨hsame, fun id field => ?_⟩
  rw [explain_only_of_granted_iff, ← hsame]
  refine or_iff_right_of_imp fun hname => ?_
  -- a built name is empty only where the value is blank, and nothing was lost of it
  have hempty : trim value = "" := by
    by_contra hne
    rw [simpleName_ofParts hv, upper, String.ofList_eq_empty_iff, upperChars_eq_nil_iff,
      String.toList_eq_nil_iff] at hname
    exact lower_ne_empty hne hname
  rw [hsame, hempty]
  simp

/-- The small sharp s has no capital of its own, and is found again. -/
theorem sameValue_ofParts_small_sharp_s :
    '/' ∉ (trim " Straße ").toList ∧
      (ofParts "d.com" .needToKnow " Straße ").sameValue ⟨" Straße "⟩ = true ∧
      explain (.only "o" (ofParts "d.com" .needToKnow " Straße ") .needToKnow)
        (.full (.ofList [⟨"int"⟩, ⟨" Straße "⟩])) = .allowed := by
  have hv : '/' ∉ (trim " Straße ").toList := by decide
  have hall : ((trim " Straße ").toList.all fun c => c ∉ oneWayCapitals) = true := by decide
  have hback : ∀ c ∈ (trim " Straße ").toList, c ∉ oneWayCapitals := fun c hc =>
    of_decide_eq_true (List.all_eq_true.mp hall c hc)
  obtain ⟨hsame, hopens⟩ := sameValue_ofParts_exact "d.com" " Straße " .needToKnow hv
  exact ⟨hv, hsame.mpr hback, (hopens "o" .needToKnow).mpr hback _ (by simp)⟩

/-- The capital sharp s is lost in the built name: its small form is put in upper case as two
letters.  Whoever was granted the value as it is written does not see what is marked with it. -/
theorem not_forall_sameValue_ofParts :
    (¬ ∀ namespaceName value category, isBlankText namespaceName = false →
      isBlankText value = false → '/' ∉ (trim value).toList →
        (ofParts namespaceName category value).sameValue ⟨value⟩ = true) ∧
    explain (.only "o" (ofParts "d.com" .needToKnow "GROẞ") .needToKnow)
      (.full (.ofList [⟨"GROẞ"⟩])) = .missingAllOf ["GROSS"] := by
  refine ⟨fun h => ?_, by decide +kernel⟩
  have hback := (sameValue_ofParts_iff (by decide)).mp
    (h "d.com" "GROẞ" .needToKnow (by decide) (by decide) (by decide))
  exact hback 'ẞ' (by decide) (by decide)

end Attribute
end Clearance
