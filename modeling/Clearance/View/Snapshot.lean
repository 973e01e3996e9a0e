import Clearance.Banner
import Clearance.Event.Basic
import Clearance.Release
import Clearance.Resolver

/-!
# Snapshots

What a viewer sees of some objects at one moment.  Each object is either visible or blocked, both
in the order in which they were asked for.  An object that is withheld leaves nothing but its name
and the reason; one that could not be read has nothing to hide and stays as it is.

## Main definitions

* `Blocked`, `Snapshot`: what is withheld, and all that is seen.
* `judge`: the verdict on an object.
* `Snapshot.ofObjects`: the snapshot of some objects for an active set.
-/

namespace Clearance

/-- An object that is not shown. -/
structure Blocked where
  id : String
  verdict : Verdict
  object : Option ResolvedObject

/-- What a viewer sees. -/
structure Snapshot where
  epoch : Nat
  visible : List ResolvedObject
  blocked : List Blocked
  banner : Banner

/-- The verdict on an object.  One without static fields cannot be judged. -/
def judge (active : ActiveSet) (o : ResolvedObject) : Verdict :=
  if o.payload.hasStatic then explain o.marking active
  else .unreadable "static payload unavailable"

/-- An object that is not shown, with the object itself only where it is unreadable. -/
def Blocked.ofObject (active : ActiveSet) (o : ResolvedObject) : Blocked :=
  let verdict := judge active o
  ⟨o.id, verdict,
    match verdict with
    | .unreadable _ => some o
    | _ => none⟩

/-- The document of an object that is not shown. -/
def Blocked.toJson (b : Blocked) : Json :=
  .object <|
    [("id", .string b.id), ("verdict", b.verdict.toJson)] ++
      match b.object with
      | some o => [("object", o.toJson)]
      | none => []

namespace Snapshot

/-- The snapshot of some objects. -/
def ofObjects (epoch : Nat) (active : ActiveSet) (objects : List ResolvedObject) : Snapshot :=
  let visible := objects.filter fun o => !(judge active o).isBlocked
  { epoch := epoch
    visible := visible
    blocked := (objects.filter fun o => (judge active o).isBlocked).map (Blocked.ofObject active)
    banner := .compute (visible.map (·.marking)) }

/-- The objects that could not be read. -/
def unreadable (s : Snapshot) : List ResolvedObject := s.blocked.filterMap (·.object)

/-- The document of a snapshot. -/
def toJson (s : Snapshot) : Json :=
  .object
    [("epoch", .ofNat s.epoch), ("visible", .array (s.visible.map ResolvedObject.toJson)),
      ("blocked", .array (s.blocked.map Blocked.toJson)), ("banner", s.banner.toJson)]

/-- The event that tells of a snapshot. -/
def event (s : Snapshot) : Event where
  kind := "banner.updated"
  payload :=
    .object
      [("banner", .string s.banner.display), ("blocked", .ofNat s.blocked.length),
        ("epoch", .ofNat s.epoch), ("visible", .ofNat s.visible.length)]

end Snapshot
end Clearance
