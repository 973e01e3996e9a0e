import Clearance.Distinct
import Clearance.Marking.Attribute

/-!
# Grants and active sets

What a principal was granted, and the part of it that is in use.  Both keep the attributes as they
were written, once each, in the order in which they first came, and the names that are held are
those of the attributes in use.

## Main definitions

* `Grant`, `Grant.categorized`, `Grant.highest?`: the attributes granted to a principal.
* `ActiveSet`, `ActiveSet.holds`: the attributes in use, and the simple names that they hold.
-/

namespace Clearance

/-- The attributes granted to a principal, once each. -/
structure Grant where
  values : List Attribute
  nodup_values : values.Nodup
  deriving DecidableEq, Repr

namespace Grant

/-- A grant of the attributes of a list. -/
def ofList (values : List Attribute) : Grant := ⟨Distinct.ofList values, Distinct.nodup_ofList _⟩

/-- The attribute was granted, exactly as it is written. -/
def contains (g : Grant) (a : Attribute) : Bool := a ∈ g.values

/-- Put a value under a category, at the end of its values unless it is among them; a new category
comes last. -/
def file (category value : String) : List (String × List String) → List (String × List String)
  | [] => [(category, [value])]
  | (c, vs) :: rest =>
    if c = category then (c, Distinct.add vs value) :: rest else (c, vs) :: file category value rest

/-- Where an attribute is put: a fully qualified name under its category segment, as what follows
its last slash. -/
def place? (v : Attribute) : Option (String × String) :=
  match v.categorySegment?, v.namespace? with
  | some category, some _ => some (category, String.ofList (Text.lastSegment v.text.toList))
  | _, _ => none

/-- The values of the fully qualified names by category segment, both in the order in which they
first occur. -/
def categorized (g : Grant) : List (String × List String) :=
  (g.values.filterMap place?).foldl (fun acc (category, value) => file category value acc) []

/-- The highest level among the classifications of a grant. -/
def highest? (g : Grant) : Option Level :=
  Level.highest? ((g.values.filter fun a => a.category? = some .classification).filterMap
    Attribute.level?)

end Grant

/-- The attributes in use, and their simple names, both once each.  A principal without access is
told apart from one whose set is empty. -/
structure ActiveSet where
  values : List Attribute
  names : List String
  noAccess : Bool
  nodup_values : values.Nodup
  nodup_names : names.Nodup
  mem_names_iff : ∀ n, n ∈ names ↔ n ≠ "" ∧ ∃ v ∈ values, v.simpleName = n
  deriving DecidableEq, Repr

namespace ActiveSet

/-- No access at all. -/
def none : ActiveSet where
  values := []
  names := []
  noAccess := true
  nodup_values := List.nodup_nil
  nodup_names := List.nodup_nil
  mem_names_iff n := by simp

/-- The set of the attributes of a list, with their simple names. -/
def ofValues (values : List Attribute) : ActiveSet where
  values := Distinct.ofList values
  names := Distinct.ofList (Attribute.names (Distinct.ofList values))
  noAccess := false
  nodup_values := Distinct.nodup_ofList _
  nodup_names := Distinct.nodup_ofList _
  mem_names_iff n := by rw [Distinct.mem_ofList, Attribute.mem_names]

/-- All that was granted. -/
def full (g : Grant) : ActiveSet := ofValues g.values

/-- The simple name is that of an attribute in use. -/
def holds (a : ActiveSet) (name : String) : Bool := name ∈ a.names

/-- A name is held exactly when it is the simple name of an attribute in use and not empty. -/
theorem holds_iff (a : ActiveSet) (n : String) :
    a.holds n = true ↔ n ≠ "" ∧ ∃ v ∈ a.values, v.simpleName = n := by
  rw [holds, decide_eq_true_eq]
  exact a.mem_names_iff n

/-- The number of attributes in use. -/
def size (a : ActiveSet) : Nat := a.values.length

/-- The simple names in order of their bytes. -/
def sortedNames (a : ActiveSet) : List String := a.names.mergeSort fun x y => decide (x ≤ y)

end ActiveSet
end Clearance
