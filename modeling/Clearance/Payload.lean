import Clearance.Json.Reader
import Clearance.Text.Blank

/-!
# Payloads

The fields of an object come from two sides: static fields out of its ciphertext, and dynamic ones
that travel beside it in plain text.  In the merged view the dynamic fields win.

## Main definitions

* `parseObject`: the object that a text writes; blank text is the empty one.
* `parseDynamic`: the dynamic fields of a record, empty where they cannot be read.
* `Payload`, `Payload.merged`: both sides, and their merged view.
-/

namespace Clearance

/-- Why a text is not an object: it is no JSON, or a document of another kind.  Both name the field
that held the text. -/
inductive ObjectFault where
  | malformed (field : String) (fault : Json.Fault)
  | notAnObject (field : String)
  deriving DecidableEq, Repr

/-- The wording of a fault. -/
def ObjectFault.message : ObjectFault → String
  | .malformed field fault => "invalid json in " ++ field ++ ": " ++ fault.message
  | .notAnObject field => field ++ " is not a json object"

/-- The object that the text of a field writes, blank text being the empty object. -/
def parseObject (raw field : String) : Except ObjectFault Fields :=
  let text := Text.trimChars raw.toList
  if text.isEmpty then .ok .empty
  else
    match Json.parse text with
    | .error fault => .error (.malformed field fault)
    | .ok v =>
      match v.fields? with
      | some f => .ok f
      | none => .error (.notAnObject field)

/-- The dynamic fields of a record.  Text that cannot be read counts as none. -/
def parseDynamic : Option String → Fields
  | none => .empty
  | some raw =>
    match parseObject raw "dynamicPlaintextFields" with
    | .ok f => f
    | .error _ => .empty

/-- The fields of an object: those out of its ciphertext, if it could be read, and those that came
in plain text. -/
structure Payload where
  staticFields : Option Fields
  dynamicFields : Fields

namespace Payload

/-- The ciphertext could be read. -/
def hasStatic (p : Payload) : Bool := p.staticFields.isSome

/-- All fields, the dynamic ones where both sides have a key. -/
def merged (p : Payload) : Fields :=
  match p.staticFields with
  | some s => s.merge p.dynamicFields
  | none => p.dynamicFields

/-- The document of a payload. -/
def toJson (p : Payload) : Json :=
  .object
    [("static_fields", (p.staticFields.map Fields.toJson).getD .null),
      ("dynamic_fields", p.dynamicFields.toJson)]

end Payload
end Clearance
