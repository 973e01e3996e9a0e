import Clearance.Marking.Attribute
import Clearance.Proofs.Text.Segments
import Clearance.Proofs.Text.UpperCase

/-!
# Simple names

The simple name of an attribute is its last segment, trimmed and in upper case.  It is empty in two
cases only: the attribute is blank, or nothing but white space follows its last slash.  It is in
normal form: a name that is trimmed and put in upper case once more does not change.  As a segment
it has no slash, and upper case brings none in, so that it is its own simple name.

## Main results

* `Attribute.simpleName_eq_empty_iff`: when a simple name is empty
* `Attribute.upper_trim_simpleName`: simple names are in normal form
* `Attribute.slash_not_mem_simpleName`: simple names have no slash
* `Attribute.simpleName_simpleName`: the simple name of a simple name
-/

namespace Clearance.Attribute

open Text

theorem simpleNameChars_eq_nil_iff (cs : List Char) :
    simpleNameChars cs = [] ↔ trimChars cs = [] ∨ (trimChars cs).getLast? = some '/' := by
  rw [simpleNameChars, upperChars_eq_nil_iff]
  exact (trimmed_trimChars cs).trimChars_lastSegment_eq_nil_iff

/-- **A simple name is empty** exactly where the attribute is blank or ends with a slash, white
space apart. -/
theorem simpleName_eq_empty_iff (v : Attribute) :
    v.simpleName = "" ↔
      trimChars v.text.toList = [] ∨ (trimChars v.text.toList).getLast? = some '/' := by
  rw [← simpleNameChars_eq_nil_iff, simpleName]
  exact String.ofList_eq_empty_iff

/-- There is no white space around a simple name. -/
theorem trimmed_simpleName (v : Attribute) : Trimmed v.simpleName.toList := by
  rw [simpleName, String.toList_ofList, simpleNameChars]
  exact (trimmed_trimChars _).upperChars

/-- **A simple name is in normal form.** -/
theorem upper_trim_simpleName (v : Attribute) : upper (trim v.simpleName) = v.simpleName := by
  rw [upper, toList_trim, (trimmed_simpleName v).trimChars_eq, simpleName, String.toList_ofList,
    simpleNameChars, upperChars_upperChars]

/-- **A simple name has no slash.** -/
theorem slash_not_mem_simpleName (v : Attribute) : '/' ∉ v.simpleName.toList := by
  rw [simpleName, String.toList_ofList, simpleNameChars, slash_mem_upperChars_iff]
  intro hmem
  exact slash_not_mem_lastSegment _ (mem_of_mem_trimChars hmem)

/-- **The simple name of a simple name** is the name itself. -/
theorem simpleName_simpleName (v : Attribute) :
    (⟨v.simpleName⟩ : Attribute).simpleName = v.simpleName := by
  -- without a slash there is one segment, and nothing to trim
  have hsegment : lastSegment (trimChars v.simpleName.toList) = v.simpleName.toList := by
    rw [(trimmed_simpleName v).trimChars_eq, lastSegment_of_not_mem (slash_not_mem_simpleName v)]
  calc (⟨v.simpleName⟩ : Attribute).simpleName
      = .ofList (simpleNameChars v.simpleName.toList) := rfl
    _ = upper (trim v.simpleName) := by rw [simpleNameChars, hsegment, upper, toList_trim]
    _ = v.simpleName := upper_trim_simpleName v

end Clearance.Attribute
