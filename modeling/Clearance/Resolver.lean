import Clearance.Cache
import Clearance.Marking.Marking
import Clearance.Worker.Decrypt

/-!
# Resolving records

The payload of a record: its static fields out of the cache if they are there, else out of its
ciphertext, and its dynamic fields always out of the record itself.  What fails to decrypt, or to
be an object, has no static fields and is not cached.

Asking the cache, asking the backend and keeping the answer are steps of their own, between which
other calls may take theirs.  `Cache.resolve` takes them in a row.

## Main definitions

* `Answer.fields?`: the static fields in the answer of a backend.
* `Query`, `Cache.look`, `Cache.receive`, `Cache.resolve`: the steps of one call, and all of them.
* `Resolving`, `Resolving.step`: calls side by side.
* `ResolvedObject`: a record with its payload and markings.
-/

namespace Clearance

/-- The answer of a backend to a ciphertext. -/
abbrev Answer := Except PoolFault Outcome

/-- The static fields in an answer: those of a payload without an error that is an object. -/
def Answer.fields? : Answer → Option Fields
  | .ok ⟨some payload, none⟩ => (parseObject payload "decryptedPayload").toOption
  | _ => none

/-- A call for the payload of an object. -/
structure Query where
  id : String
  sourceType : String
  ciphertext : List UInt8
  dynamic : Option String
  deriving DecidableEq, Repr

/-- The payload of a call, given the static fields. -/
def Query.payload (q : Query) (static : Option Fields) : Payload := ⟨static, parseDynamic q.dynamic⟩

namespace Cache

/-- Ask the cache. -/
def look (c : Cache) (q : Query) : Option Payload × Cache :=
  let (hit, c) := c.get q.id
  (hit.map fun f => q.payload (some f), c)

/-- Keep the fields of an answer, if it has any. -/
def receive (c : Cache) (q : Query) (answer : Answer) : Payload × Cache :=
  match answer.fields? with
  | some f => (q.payload (some f), (c.insert q.id q.sourceType f).2)
  | none => (q.payload none, c)

/-- A whole call, with the backend as a function. -/
def resolve (backend : List UInt8 → Answer) (c : Cache) (q : Query) : Payload × Cache :=
  match c.look q with
  | (some payload, c) => (payload, c)
  | (none, c) => c.receive q (backend q.ciphertext)

end Cache

/-! ## Calls side by side -/

/-- How far a call has come: the cache had nothing, the backend was asked, the payload is there. -/
inductive Resolving.Stage where
  | missed
  | asked
  | done (payload : Payload)

/-- A call and how far it has come. -/
structure Resolving.Call where
  query : Query
  stage : Resolving.Stage

/-- A cache and the calls that use it, oldest first. -/
structure Resolving where
  cache : Cache
  calls : List Resolving.Call := []

namespace Resolving

/-- What may happen. -/
inductive Event where
  /-- A call begins and asks the cache. -/
  | look (q : Query)
  /-- A call asks the backend. -/
  | ask (call : Nat)
  /-- The backend answers a call. -/
  | answer (call : Nat) (answer : Answer)
  /-- The cache is cleared. -/
  | clear

/-- Set how far a call has come. -/
def setStage (r : Resolving) (i : Nat) (stage : Stage) : Resolving :=
  { r with calls := r.calls.modify i fun c => { c with stage := stage } }

/-- What an event changes; none where it cannot happen. -/
def step (r : Resolving) : Event → Option Resolving
  | .look q =>
    let (found, cache) := r.cache.look q
    let stage :=
      match found with
      | some payload => Stage.done payload
      | none => Stage.missed
    some { cache := cache, calls := r.calls ++ [⟨q, stage⟩] }
  | .ask i =>
    match r.calls[i]? with
    | some ⟨_, .missed⟩ => some (r.setStage i .asked)
    | _ => none
  | .answer i answer =>
    match r.calls[i]? with
    | some ⟨q, .asked⟩ =>
      let (payload, cache) := r.cache.receive q answer
      some ({ r with cache := cache }.setStage i (.done payload))
    | _ => none
  | .clear => some { r with cache := r.cache.clear }

/-- Several events in a row; none where one of them cannot happen. -/
def run (r : Resolving) : List Event → Option Resolving
  | [] => some r
  | e :: rest => (r.step e).bind fun r => r.run rest

end Resolving

/-! ## Resolved objects -/

/-- A record with its payload.  Its markings come from the static fields alone. -/
structure ResolvedObject where
  id : String
  sourceType : String
  geo : Option String
  timestamp : Option String
  payload : Payload
  marking : Marking

/-- The call for the payload of a record. -/
def RawRecord.query (r : RawRecord) : Query := ⟨r.id, r.sourceType, r.ciphertext, r.dynamicFields⟩

namespace ResolvedObject

/-- The markings of an object with a payload; without static fields it has none. -/
def markingOf (id : String) (payload : Payload) : Marking :=
  match payload.staticFields with
  | some f => .ofPayload id f
  | none => { id }

/-- A record whose payload has come. -/
def ofRecord (r : RawRecord) (payload : Payload) : ResolvedObject where
  id := r.id
  sourceType := r.sourceType
  geo := r.geo
  timestamp := r.timestamp
  payload := payload
  marking := markingOf r.id payload

/-- All fields of an object. -/
def fields (o : ResolvedObject) : Fields := o.payload.merged

/-- The document of a text that may be missing. -/
def optional : Option String → Json
  | none => .null
  | some s => .string s

/-- The document of an object. -/
def toJson (o : ResolvedObject) : Json :=
  .object
    [("id", .string o.id), ("source_type_id", .string o.sourceType), ("geo", optional o.geo),
      ("timestamp", optional o.timestamp), ("payload", o.payload.toJson),
      ("attributes", o.marking.toJson)]

end ResolvedObject
end Clearance
