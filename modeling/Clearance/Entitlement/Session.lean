import Clearance.Entitlement.Grant

/-!
# Sessions

A session holds what the signed-in principal was granted and the part of it that is in use.  The
part in use is always chosen from the whole grant, never from the part that was in use before.
The *epoch* counts the changes, so that two readings of one epoch are readings of one active set;
an operation that fails leaves the session as it was, except a sign-in without entitlements, which
ends it.

## Main definitions

* `Session`: grant, active set and epoch.
* `Session.signIn`, `Session.signOut`, `Session.reset`: the whole grant, or none.
* `Selection`, `Session.narrow`: the part of the grant below a ceiling and within two lists of
  names.
* `Session.narrowTo`: a part given by its attributes.
-/

namespace Clearance

/-- Why a session refuses an operation. -/
inductive EntitlementFault where
  | missing
  | notSignedIn
  | notGranted (values : List String)
  deriving DecidableEq, Repr

/-- The wording of a fault. -/
def EntitlementFault.message : EntitlementFault → String
  | .missing => "no entitlements were issued for the signed-in principal"
  | .notSignedIn => "no principal is signed in"
  | .notGranted values => "attributes not granted to the principal: " ++ Text.joinWith ", " values

/-- A choice of what stays in use: a ceiling for classifications, and the names that stay in the
other two categories. -/
structure Selection where
  classification : Level := .unclassified
  needToKnow : List String := []
  relTo : List String := []
  deriving DecidableEq, Repr

namespace Selection

/-- A name as it is compared with simple names. -/
def normalName (s : String) : String := Text.upper (Text.trim s)

/-- The names of a list contain a simple name. -/
def lists (names : List String) (name : String) : Bool := name ∈ names.map normalName

/-- The attribute stays in use.  A blank attribute never does, one that is no fully qualified name
of a known category always does. -/
def keeps (s : Selection) (a : Attribute) : Bool :=
  let name := a.simpleName
  if name = "" then false
  else
    match a.category? with
    | some .classification =>
      match Level.ofName? name with
      | some l => l ∈ s.classification.subordinates
      | none => false
    | some .needToKnow => lists s.needToKnow name
    | some .relTo => lists s.relTo name
    | none => true

end Selection

/-- The entitlements of the signed-in principal. -/
structure Session where
  granted : Option Grant
  active : ActiveSet
  epoch : Nat
  deriving DecidableEq, Repr

namespace Session

/-- The largest epoch, at which the count stays. -/
def lastEpoch : Nat := UInt64.size - 1

/-- The epoch after a change. -/
def nextEpoch (epoch : Nat) : Nat := min (epoch + 1) lastEpoch

/-- The session before anyone signed in. -/
def initial : Session := ⟨none, .none, 0⟩

/-- The answer of an operation: the active set, or why it was refused. -/
abbrev Answer := Except EntitlementFault ActiveSet

/-- Put an active set into use. -/
def use (s : Session) (active : ActiveSet) : Answer × Session :=
  (.ok active, { s with active := active, epoch := nextEpoch s.epoch })

/-- End the session. -/
def signOut (s : Session) : Session := ⟨none, .none, nextEpoch s.epoch⟩

/-- Begin a session with the entitlements of a principal.  Without any the session ends. -/
def signIn (s : Session) : Option (List Attribute) → Answer × Session
  | none => (.error .missing, s.signOut)
  | some values =>
    let grant := Grant.ofList values
    ({ s with granted := some grant }).use (.full grant)

/-- An operation on the grant; without one it is refused. -/
def withGrant (s : Session) (f : Grant → Answer × Session) : Answer × Session :=
  match s.granted with
  | some g => f g
  | none => (.error .notSignedIn, s)

/-- Use the whole grant again. -/
def reset (s : Session) : Answer × Session := s.withGrant fun g => s.use (.full g)

/-- Use the part of the grant that a selection keeps. -/
def narrow (s : Session) (selection : Selection) : Answer × Session :=
  s.withGrant fun g => s.use (.ofValues (g.values.filter selection.keeps))

/-- Use the given attributes, all of which must have been granted. -/
def narrowTo (s : Session) (values : List Attribute) : Answer × Session :=
  s.withGrant fun g =>
    match values.filter fun a => !g.contains a with
    | [] => s.use (.ofValues values)
    | missing => (.error (.notGranted (missing.map (·.text))), s)

end Session
end Clearance
