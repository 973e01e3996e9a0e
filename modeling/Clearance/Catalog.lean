import Clearance.Json.Record
import Clearance.Marking.Format

/-!
# Catalogs

The attributes that a policy defines, as a person picks them: by category, with a label each.  The
releases come with a priority group first, and each group in the order of its names.

## Main definitions

* `Policy`: the definitions of a policy, with `Policy.format` as their document.
* `Catalog.Entry`, `Catalog`: what can be picked, with `Catalog.format` as its document.
* `Catalog.ofPolicy`: the catalog of a policy.
-/

namespace Clearance

open Json

/-! ## Policies -/

/-- The values that a policy defines under one name. -/
structure Policy.Definition where
  name : String
  values : List String := []
  deriving DecidableEq, Repr

/-- A policy: a namespace and its definitions. -/
structure Policy where
  namespaceName : String
  definitions : List Policy.Definition := []
  deriving DecidableEq, Repr

namespace Policy

/-- The document of one value. -/
def valueFormat : Format String :=
  .record "ValueDefinition" (.cons ⟨"value", .text, .refused, fun _ => false⟩ .nil)
    (fun (value, ()) => value) (fun value => (value, ()))

/-- The document of a definition. -/
def Definition.format : Format Definition :=
  .record "AttributeDefinition"
    (.cons ⟨"name", .text, .refused, fun _ => false⟩ <|
      .cons ⟨"values", .list valueFormat, .anywhere [], fun _ => false⟩ .nil)
    (fun (name, values, ()) => ⟨name, values⟩) (fun d => (d.name, d.values, ()))

/-- The document of a policy. -/
def format : Format Policy :=
  .record "PolicyDefinition"
    (.cons ⟨"namespace", .text, .refused, fun _ => false⟩ <|
      .cons ⟨"attributes", .list Definition.format, .anywhere [], fun _ => false⟩ .nil)
    (fun (namespaceName, definitions, ()) => ⟨namespaceName, definitions⟩)
    (fun p => (p.namespaceName, p.definitions, ()))

end Policy

/-! ## Catalogs -/

/-- A value that can be picked. -/
structure Catalog.Entry where
  label : String
  value : Attribute
  group : Option String := none
  deriving DecidableEq, Repr

/-- What can be picked, by category. -/
structure Catalog where
  namespaceName : String
  classification : List Catalog.Entry := []
  needToKnow : List Catalog.Entry := []
  relTo : List Catalog.Entry := []
  deriving DecidableEq, Repr

namespace Catalog

/-- The document of an entry.  The group is left out where there is none. -/
def Entry.format : Format Entry :=
  .record "CatalogEntry"
    (.cons ⟨"label", .text, .refused, fun _ => false⟩ <|
      .cons ⟨"value", Attribute.format, .refused, fun _ => false⟩ <|
      .cons ⟨"group", .option .text, .anywhere none, Option.isNone⟩ .nil)
    (fun (label, value, group, ()) => ⟨label, value, group⟩)
    (fun e => (e.label, e.value, e.group, ()))

/-- The document of a catalog. -/
def format : Format Catalog :=
  .record "AttributeCatalog"
    (.cons ⟨"namespace", .text, .refused, fun _ => false⟩ <|
      .cons ⟨"classification", .list Entry.format, .refused, fun _ => false⟩ <|
      .cons ⟨"need_to_know", .list Entry.format, .refused, fun _ => false⟩ <|
      .cons ⟨"rel_to", .list Entry.format, .refused, fun _ => false⟩ .nil)
    (fun (namespaceName, classification, needToKnow, relTo, ()) =>
      ⟨namespaceName, classification, needToKnow, relTo⟩)
    (fun c => (c.namespaceName, c.classification, c.needToKnow, c.relTo, ()))

/-- The releases that come first. -/
def priorityCodes : List String := ["FVEY", "NATO", "PINK", "AUS", "FRA", "GBR", "USA"]

/-- The group of a label within a category. -/
def groupOf (category : Category) (label : String) : Option String :=
  if category = .relTo ∧ label ∈ priorityCodes then some "priority" else none

/-- The entry of a value that a policy defines. -/
def entryOf (namespaceName : String) (category : Category) (value : String) : Entry :=
  let label := Text.upper (Text.trim value)
  ⟨label, .ofParts namespaceName category value, groupOf category label⟩

/-- The entries of one category, in the order of the policy.  Definitions whose name is no
category are passed over. -/
def entriesOf (p : Policy) (category : Category) : List Entry :=
  (p.definitions.filter fun d => Category.ofSlug? d.name = some category).flatMap fun d =>
    d.values.map (entryOf p.namespaceName category)

/-- One release may stand before another: the priority group first, then by name. -/
def precedes (a b : Entry) : Bool :=
  if a.group.isSome = b.group.isSome then decide (a.value.text ≤ b.value.text) else a.group.isSome

/-- The catalog of a policy. -/
def ofPolicy (p : Policy) : Catalog where
  namespaceName := p.namespaceName
  classification := entriesOf p .classification
  needToKnow := entriesOf p .needToKnow
  relTo := (entriesOf p .relTo).mergeSort precedes

/-- The entries of a category. -/
def entries (c : Catalog) : Category → List Entry
  | .classification => c.classification
  | .needToKnow => c.needToKnow
  | .relTo => c.relTo

/-- The fully qualified name of a value in the namespace of a catalog. -/
def fqn (c : Catalog) (category : Category) (value : String) : Attribute :=
  .ofParts c.namespaceName category value

/-- The simple names of a category. -/
def simpleNames (c : Catalog) (category : Category) : List String :=
  (c.entries category).map fun e => e.value.simpleName

/-- The ranked levels among the classifications, by their labels. -/
def levels (c : Catalog) : List Level := c.classification.filterMap fun e => Level.ofName? e.label

/-- An entry of some category names the same value. -/
def knows (c : Catalog) (a : Attribute) : Bool :=
  Category.all.any fun category => a.simpleName ∈ c.simpleNames category

end Catalog
end Clearance
