import Clearance.Json.Printer

/-!
# Schemas

A schema describes the documents of a record: its fields, what they are for, and what they may
hold.  It can be written down as a document itself (JSON Schema, draft 7), and a document can be
checked against it.  No field has to be there, and fields that the schema does not name may hold
anything.

The check looks at the fields in order of their names, and at the parts of a value before the
value itself.

## Main definitions

* `Schema`, `Schema.Part`: what a document may hold, and the fields of a record.
* `Schema.document`: the written form of a schema.
* `Violation`, `Schema.violations`: all that a document has against a schema.
-/

namespace Clearance.Json

mutual
/-- What a document may hold: a text, a truth value, a whole number from `least` on, an array, or a
record. -/
inductive Schema where
  | text
  | flag
  | count (least : Nat)
  | list (item : Schema)
  | record (name : String) (about : Option String) (parts : List Schema.Part)

/-- A field of a record, with the document that stands for it where it is missing. -/
inductive Schema.Part where
  | mk (name : String) (about : Option String) (default : Json) (value : Schema)
end

namespace Schema

/-! ## Written form -/

/-- A member with a text, if there is one. -/
def optionalMember (k : String) (s : Option String) : List (String × Json) :=
  (s.map fun s => (k, Json.string s)).toList

mutual
/-- The written form of a schema inside another; records are referred to by name. -/
def members : Schema → List (String × Json)
  | .count least =>
    [("type", .string "integer"), ("format", .string "uint"), ("minimum", .real (.ofNat least))]
  | .list item => [("type", .string "array"), ("items", .object item.members)]
  | .record name _ _ => [("$ref", .string ("#/definitions/" ++ name))]
  | .text => [("type", .string "string")]
  | .flag => [("type", .string "boolean")]

/-- The written form of the fields of a record.  What stands beside a reference would be ignored,
so a reference has a list of its own. -/
def partMembers : List Part → List (String × Json)
  | [] => []
  | .mk name about default value :: rest =>
    let described :=
      match value with
      | .record _ _ _ => [("allOf", .array [.object value.members])]
      | _ => value.members
    (name, .object (described ++ ("default", default) :: optionalMember "description" about)) ::
      partMembers rest
end

/-- The written form of a record where it is defined. -/
def recordMembers (about : Option String) (parts : List Part) : List (String × Json) :=
  [("type", .string "object"), ("properties", .object (partMembers parts))] ++
    optionalMember "description" about

mutual
/-- The definitions of the records that a schema refers to. -/
def definitions : Schema → List (String × Json)
  | .list item => item.definitions
  | .record name about parts =>
    (name, .object (recordMembers about parts)) :: partDefinitions parts
  | .text | .flag | .count _ => []

/-- The definitions of the records that the fields of a record refer to. -/
def partDefinitions : List Part → List (String × Json)
  | [] => []
  | .mk _ _ _ value :: rest => value.definitions ++ partDefinitions rest
end

/-- The written form of a schema, with the definitions that it refers to. -/
def document (s : Schema) : Json :=
  let version := ("$schema", Json.string "http://json-schema.org/draft-07/schema#")
  match s with
  | .record name about parts =>
    (Json.object
      (version :: ("title", .string name) :: ("definitions", .object (partDefinitions parts)) ::
        recordMembers about parts)).canonical
  | s =>
    (Json.object (version :: ("definitions", .object s.definitions) :: s.members)).canonical

end Schema

/-! ## Checking -/

/-- What a document has against a schema: a number is too small, or a value is of another kind. -/
inductive Violation where
  | tooSmall (value : Json) (least : Nat)
  | wrongKind (value : Json) (wanted : String)
  deriving Repr, BEq

/-- The wording of a violation. -/
def Violation.message : Violation → String
  | .tooSmall v least =>
    v.compact ++ " is less than the minimum of " ++ (Double.ofNat least).text
  | .wrongKind v wanted => v.compact ++ " is not of type \"" ++ wanted ++ "\""

/-- A number less than a natural one. -/
def isBelow (least : Nat) : Json → Bool
  | .int n => n < least
  | .real x => x.isBelow least
  | _ => false

/-- A number without a fraction, in either form. -/
def isWhole : Json → Bool
  | .int _ => true
  | .real x => x.toInt?.isSome
  | _ => false

namespace Schema

mutual
/-- All that a document has against a schema, in order. -/
def violations : Schema → Json → List Violation
  | .text, v =>
    match v with
    | .string _ => []
    | v => [.wrongKind v "string"]
  | .flag, v =>
    match v with
    | .bool _ => []
    | v => [.wrongKind v "boolean"]
  | .count least, v =>
    (if isBelow least v then [.tooSmall v least] else []) ++
      if isWhole v then [] else [.wrongKind v "integer"]
  | .list item, v =>
    match v with
    | .array items => items.flatMap item.violations
    | v => [.wrongKind v "array"]
  | .record _ _ parts, v =>
    match v with
    | .object members => (Keyed.sort (partViolations parts members)).flatMap (·.2)
    | v => [.wrongKind v "object"]

/-- All that the members of a record have against its fields, by field. -/
def partViolations : List Part → List (String × Json) → List (String × List Violation)
  | [], _ => []
  | .mk name _ _ value :: rest, members =>
    (name, ((Keyed.find? name members).map value.violations).getD []) ::
      partViolations rest members
end

end Schema
end Clearance.Json
