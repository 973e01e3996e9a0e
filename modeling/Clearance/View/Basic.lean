import Clearance.Entitlement.Session
import Clearance.View.Snapshot

/-!
# The situational view

A view joins a session, a cache and the listeners.  Whatever changes the active set also clears
the cache, so that no payload is served from before the change, and tells the listeners of both.
A refresh resolves its records first and judges them all at the end, by the active set of that
moment.

The records of a refresh are resolved side by side, and the session may change while they are.  So
a refresh has steps of its own: its records ask the cache one by one, answers come in one by one,
and it ends.

## Main definitions

* `View`: session and cache.
* `View.signIn`, `View.signOut`, `View.narrow`, `View.narrowTo`, `View.reset`: changes of the
  context.
* `Refresh`, `View.look`, `View.receive`, `View.complete`: the steps of a refresh.
* `View.refresh`: a whole refresh, with the backend as a function.
* `Viewing`, `Viewing.step`: refreshes and changes side by side.
-/

namespace Clearance

/-- A session and the cache of what was decrypted in it. -/
structure View where
  session : Session
  cache : Cache

namespace View

/-- The view before anyone signed in. -/
def initial (cacheable : List String) : View := ⟨.initial, .ofTypes cacheable⟩

/-! ## Changes of the context -/

/-- Clear the cache after the session has changed, and tell of both. -/
def contextChanged (v : View) (session : Session) (reason : String) : List Event × View :=
  ([⟨"cache.cleared",
      .object [("dropped", .ofNat v.cache.size), ("reason", .string reason)]⟩,
    ⟨"entitlements.changed",
      .object
        [("active", .ofNat session.active.size), ("epoch", .ofNat session.epoch),
          ("no_access", .bool session.active.noAccess), ("reason", .string reason)]⟩],
    ⟨session, v.cache.clear⟩)

/-- An operation that leaves everything as it is where it is refused. -/
def change (v : View) (reason : String) (result : Session.Answer × Session) :
    Session.Answer × List Event × View :=
  match result with
  | (.ok active, session) => (.ok active, v.contextChanged session reason)
  | (.error fault, _) => (.error fault, [], v)

/-- Begin a session.  Without entitlements the session ends, which is a change as well. -/
def signIn (v : View) (values : Option (List Attribute)) : Session.Answer × List Event × View :=
  let (answer, session) := v.session.signIn values
  (answer, v.contextChanged session "sign_in")

/-- End the session. -/
def signOut (v : View) : List Event × View := v.contextChanged v.session.signOut "sign_out"

/-- Use the part of the grant that a selection keeps. -/
def narrow (v : View) (selection : Selection) : Session.Answer × List Event × View :=
  v.change "narrow" (v.session.narrow selection)

/-- Use the given attributes. -/
def narrowTo (v : View) (values : List Attribute) : Session.Answer × List Event × View :=
  v.change "narrow" (v.session.narrowTo values)

/-- Use the whole grant again. -/
def reset (v : View) : Session.Answer × List Event × View := v.change "reset" v.session.reset

end View

/-! ## Refreshes -/

/-- A record of a refresh, and its payload once that has come. -/
structure Fetch where
  record : RawRecord
  payload : Option Payload

/-- The records of a refresh, in order. -/
structure Refresh where
  fetches : List Fetch

namespace Refresh

/-- The ciphertexts that have to be decrypted, with the numbers of their records. -/
def wanted (r : Refresh) : List (Nat × List UInt8) :=
  r.fetches.zipIdx.filterMap fun (f, i) =>
    if f.payload.isNone then some (i, f.record.ciphertext) else none

/-- The resolved objects, once all payloads have come. -/
def objects? (r : Refresh) : Option (List ResolvedObject) :=
  r.fetches.mapM fun f => f.payload.map (ResolvedObject.ofRecord f.record)

end Refresh

namespace View

/-- The next record of a refresh asks the cache. -/
def look (v : View) (r : Refresh) (record : RawRecord) : Refresh × View :=
  let (payload, cache) := v.cache.look record.query
  (⟨r.fetches ++ [⟨record, payload⟩]⟩, { v with cache })

/-- Begin a refresh: all records ask the cache, in order. -/
def begin (v : View) (records : List RawRecord) : Refresh × View :=
  records.foldl (fun (r, v) record => v.look r record) (⟨[]⟩, v)

/-- An answer comes for record `i`. -/
def receive (v : View) (r : Refresh) (i : Nat) (answer : Answer) : Refresh × View :=
  match r.fetches[i]? with
  | some ⟨record, none⟩ =>
    let (payload, cache) := v.cache.receive record.query answer
    (⟨r.fetches.set i ⟨record, some payload⟩⟩, { v with cache })
  | _ => (r, v)

/-- End a refresh whose payloads have all come: judge the objects by the active set of this
moment. -/
def complete (v : View) (r : Refresh) : Option (Snapshot × List Event) :=
  r.objects?.map fun objects =>
    let snapshot := Snapshot.ofObjects v.session.epoch v.session.active objects
    (snapshot, [snapshot.event])

/-- The answers of a backend for the records of a refresh that wait for one. -/
def receiveAll (v : View) (backend : List UInt8 → Answer) (r : Refresh) : Refresh × View :=
  r.wanted.foldl (fun (r, v) (i, ciphertext) => v.receive r i (backend ciphertext)) (r, v)

/-- A whole refresh, with the answers coming in order.  All payloads have come at its end, so that
it has a snapshot. -/
def refresh (v : View) (backend : List UInt8 → Answer) (records : List RawRecord) :
    Option (Snapshot × List Event) × View :=
  let (r, v) := v.begin records
  let (r, v) := v.receiveAll backend r
  (v.complete r, v)

end View

/-! ## Refreshes and changes side by side -/

/-- A refresh, and the records that have not yet asked the cache. -/
structure Viewing.Pass where
  refresh : Refresh
  ahead : List RawRecord

/-- A view with its refreshes, oldest first, the events that were published, and the snapshots that
were returned, each with the number of its refresh. -/
structure Viewing where
  view : View
  passes : List Viewing.Pass := []
  published : List Event := []
  snapshots : List (Nat × Snapshot) := []

namespace Viewing

/-- A change of the context. -/
inductive Change where
  | signIn (values : Option (List Attribute))
  | signOut
  | narrow (selection : Selection)
  | narrowTo (values : List Attribute)
  | reset

/-- What a change does to a view, and the events that it publishes. -/
def Change.apply (v : View) : Change → List Clearance.Event × View
  | .signIn values => (v.signIn values).2
  | .signOut => v.signOut
  | .narrow selection => (v.narrow selection).2
  | .narrowTo values => (v.narrowTo values).2
  | .reset => v.reset.2

/-- What may happen. -/
inductive Event where
  /-- The context changes. -/
  | change (c : Change)
  /-- Someone asks for a refresh. -/
  | begin (records : List RawRecord)
  /-- The next record of a refresh asks the cache. -/
  | look (refresh : Nat)
  /-- The backend answers for a record of a refresh. -/
  | receive (refresh record : Nat) (answer : Answer)
  /-- A refresh ends. -/
  | complete (refresh : Nat)

/-- A view before anyone signed in, without refreshes. -/
def initial (cacheable : List String) : Viewing := { view := .initial cacheable }

/-- What an event changes; none where it cannot happen. -/
def step (s : Viewing) : Event → Option Viewing
  | .change c =>
    let (events, view) := c.apply s.view
    some { s with view := view, published := s.published ++ events }
  | .begin records => some { s with passes := s.passes ++ [⟨⟨[]⟩, records⟩] }
  | .look k =>
    match s.passes[k]? with
    | some ⟨r, record :: ahead⟩ =>
      let (r, view) := s.view.look r record
      some { s with view := view, passes := s.passes.set k ⟨r, ahead⟩ }
    | _ => none
  | .receive k i answer =>
    match s.passes[k]? with
    | some ⟨r, ahead⟩ =>
      if (r.fetches[i]?.bind fun f => f.payload).isNone ∧ i < r.fetches.length then
        let (r, view) := s.view.receive r i answer
        some { s with view := view, passes := s.passes.set k ⟨r, ahead⟩ }
      else none
    | none => none
  | .complete k =>
    if s.snapshots.any fun x => x.1 = k then none
    else
      match s.passes[k]? with
      | some ⟨r, []⟩ =>
        match s.view.complete r with
        | some (snapshot, events) =>
          some
            { s with
              published := s.published ++ events
              snapshots := s.snapshots ++ [(k, snapshot)] }
        | none => none
      | _ => none

/-- Several events in a row; none where one of them cannot happen. -/
def run (s : Viewing) : List Event → Option Viewing
  | [] => some s
  | e :: rest => (s.step e).bind fun s => s.run rest

end Viewing
end Clearance
