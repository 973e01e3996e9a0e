import Clearance.Entitlement.Grant
import Clearance.Marking.Marking

/-!
# Release

Whether an object may be shown to a viewer.  All of its classifications and needs to know have to be
held, and one of its releases if it lists any; blank attributes ask for nothing.

## Main definitions

* `Verdict`: the answer, with its reason.
* `explain`, `isBlocked`: the verdict on an object's markings.
* `explainNote`: the verdict on a note, whose markings may be unreadable.
* `unavailable`: the attributes of a selection for which its author would be blocked.
-/

namespace Clearance

/-- The answer to a viewer who asks for an object. -/
inductive Verdict where
  | allowed
  | missingAllOf (missing : List String)
  | noRelToOverlap (relTo : List String)
  | unreadable (reason : String)
  deriving DecidableEq, Repr

namespace Verdict

/-- The object is withheld. -/
def isBlocked : Verdict → Bool
  | .allowed => false
  | _ => true

/-- The document of a verdict. -/
def toJson : Verdict → Json
  | .allowed => .object [("verdict", .string "allowed")]
  | .missingAllOf missing =>
    .object [("missing", .ofStrings missing), ("verdict", .string "missing_all_of")]
  | .noRelToOverlap relTo =>
    .object [("rel_to", .ofStrings relTo), ("verdict", .string "no_rel_to_overlap")]
  | .unreadable reason =>
    .object [("reason", .string reason), ("verdict", .string "unreadable")]

end Verdict

/-- Releases are listed, and the viewer holds none of them. -/
def lacksRelease (relTo : List Attribute) (active : ActiveSet) : Bool :=
  let names := Attribute.names relTo
  !names.isEmpty && !names.any active.holds

/-- The verdict on an object. -/
def explain (m : Marking) (active : ActiveSet) : Verdict :=
  match m.required.filter fun n => !active.holds n with
  | [] => if lacksRelease m.relTo active then .noRelToOverlap m.released else .allowed
  | missing => .missingAllOf missing

/-- The object is withheld from the viewer. -/
def isBlocked (m : Marking) (active : ActiveSet) : Bool := (explain m active).isBlocked

/-- The verdict on a note. -/
def explainNote (note : Note) (active : ActiveSet) : Verdict :=
  match Marking.ofNote note with
  | .ok m => explain m active
  | .error fault => .unreadable fault.message

/-- The attributes of a selection that its author does not hold: the required ones one by one, and
all releases if none of them is held. -/
def unavailable (m : Marking) (active : ActiveSet) : List Attribute :=
  ((m.classification ++ m.needToKnow).filter fun a =>
    a.simpleName ≠ "" && !active.holds a.simpleName) ++
    if lacksRelease m.relTo active then m.relTo else []

end Clearance
