import Clearance.Banner
import Clearance.Entitlement.Session
import Clearance.Release

/-!
# Offline reports

The verdicts on payloads and notes that are at hand in plain text, for a principal whose
entitlements are given as a list.  Nothing is decrypted and nothing is kept.

## Main definitions

* `Offline.activeSet`: the set in use after a sign-in, and a narrowing if one is asked for.
* `Offline.markings`: the markings of some payloads.
* `Offline.Report`, `Offline.report`: all verdicts, and the banner of what is visible.
-/

namespace Clearance.Offline

/-- The set in use after a sign-in with some entitlements, and a narrowing if one is asked for. -/
def activeSet (entitlements : List Attribute) (selection : Option Selection) : Session.Answer :=
  let (answer, session) := Session.initial.signIn (some entitlements)
  match selection with
  | none => answer
  | some selection => (session.narrow selection).1

/-- The name of the payload at a position.  One without a name is numbered. -/
def nameAt (payload : Fields) (position : Nat) : String :=
  match payload.get? "id" with
  | some (.string id) => id
  | _ => "#" ++ toString position

/-- The markings of some payloads. -/
def markings (payloads : List Fields) : List Marking :=
  payloads.zipIdx.map fun (payload, i) => .ofPayload (nameAt payload i) payload

/-- Verdicts on objects and notes for one active set. -/
structure Report where
  active : ActiveSet
  objects : List (Marking × Verdict)
  notes : List (Note × Verdict)

/-- The report on some objects and notes. -/
def report (active : ActiveSet) (objects : List Marking) (notes : List Note) : Report where
  active := active
  objects := objects.map fun o => (o, explain o active)
  notes := notes.map fun n => (n, explainNote n active)

namespace Report

/-- The objects that are not withheld. -/
def visible (r : Report) : List Marking :=
  (r.objects.filter fun (_, verdict) => !verdict.isBlocked).map (·.1)

/-- The banner of what is visible. -/
def banner (r : Report) : Banner := .compute r.visible

/-- The document of a report. -/
def toJson (r : Report) : Json :=
  .object
    [("active", .ofStrings r.active.sortedNames), ("banner", .string r.banner.display),
      ("notes", .array (r.notes.map fun (n, verdict) =>
        .object
          [("id", .string n.id), ("parentId", (n.parentId.map Json.string).getD .null),
            ("result", verdict.toJson)])),
      ("objects", .array (r.objects.map fun (o, verdict) =>
        .object [("id", .string o.id), ("result", verdict.toJson)]))]

end Report

/-- The banner of the object of a name, with the notes attached to it. -/
def bannerOf (object : Marking) (notes : List Note) : Banner :=
  .ofObject object (notes.filter fun n => n.parentId = some object.id)

end Clearance.Offline
