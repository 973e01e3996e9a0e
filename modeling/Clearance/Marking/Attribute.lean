import Clearance.Marking.Category
import Clearance.Text.Segments

/-!
# Attributes

An attribute is a text, as a rule of the form `scheme://namespace/attr/category/value/value`, and
is kept as it was written.  Access is decided on its simple name alone, which is its last segment
in upper case.

## Main definitions

* `Attribute`: a text that names an attribute value.
* `Attribute.simpleName`: what access decisions compare.
* `Fqn`, `Attribute.fqn?`: the parts of a fully qualified name.
* `Attribute.ofParts`: the fully qualified name of a value.
-/

namespace Clearance

/-- A text that names an attribute value. -/
structure Attribute where
  text : String
  deriving DecidableEq, Repr, Inhabited

/-- The parts of a fully qualified name that are not fixed. -/
structure Fqn where
  namespaceName : String
  category : String
  value : String
  deriving DecidableEq, Repr

namespace Fqn

/-- The parts of `namespace/attr/category/value/value`.  The two fixed segments may be in any ASCII
case, and the others may not be empty. -/
def ofSegments? : List (List Char) → Option Fqn
  | [n, attr, c, value, v] =>
    if n ≠ [] ∧ Text.asciiLower attr = ['a', 't', 't', 'r'] ∧ c ≠ [] ∧
        Text.asciiLower value = ['v', 'a', 'l', 'u', 'e'] ∧ v ≠ [] then
      some ⟨String.ofList n, String.ofList c, String.ofList v⟩
    else none
  | _ => none

/-- The parts of a fully qualified name, which begin behind the first `://`. -/
def ofChars? (cs : List Char) : Option Fqn :=
  match Text.splitScheme cs with
  | some (_, rest) => ofSegments? (Text.splitOn '/' rest)
  | none => none

end Fqn

namespace Attribute

/-- The last segment of a text without white space around it, in upper case. -/
def simpleNameChars (cs : List Char) : List Char :=
  Text.upperChars (Text.trimChars (Text.lastSegment (Text.trimChars cs)))

/-- The name that access decisions compare; blank attributes have an empty one. -/
def simpleName (a : Attribute) : String := String.ofList (simpleNameChars a.text.toList)

/-- Both attributes name the same value. -/
def sameValue (a b : Attribute) : Bool := a.simpleName = b.simpleName

/-- The parts of an attribute that is a fully qualified name. -/
def fqn? (a : Attribute) : Option Fqn := Fqn.ofChars? a.text.toList

/-- The attribute is a fully qualified name. -/
def isFqn (a : Attribute) : Bool := a.fqn?.isSome

/-- The namespace of a fully qualified name. -/
def namespace? (a : Attribute) : Option String := a.fqn?.map (·.namespaceName)

/-- The category segment of a fully qualified name, known or not. -/
def categorySegment? (a : Attribute) : Option String := a.fqn?.map (·.category)

/-- The category of a fully qualified name. -/
def category? (a : Attribute) : Option Category := a.categorySegment?.bind Category.ofSlug?

/-- The fully qualified name of a value, in lower case as a whole. -/
def ofParts (namespaceName : String) (category : Category) (value : String) : Attribute :=
  ⟨Text.lower <| "https://" ++ Text.trim namespaceName ++ "/attr/" ++ category.segment ++
    "/value/" ++ Text.trim value⟩

/-- The level that an attribute names. -/
def level? (a : Attribute) : Option Level := Level.ofName? a.simpleName

/-- The simple names of a list of attributes, in order, without the empty ones. -/
def names (l : List Attribute) : List String := (l.map simpleName).filter (· ≠ "")

theorem mem_names {l : List Attribute} {n : String} :
    n ∈ names l ↔ n ≠ "" ∧ ∃ v ∈ l, v.simpleName = n := by
  simp [names, and_comm]

end Attribute
end Clearance
