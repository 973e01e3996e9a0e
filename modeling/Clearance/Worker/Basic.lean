import Clearance.Worker.Decrypt
import Clearance.Worker.State

/-!
# A worker and its callers

A worker is three parties that share some queues.  Its *task* takes requests from an inbox one at
a time and posts replies to an outbox.  Its *router* takes the replies from the outbox and hands
each to the caller that waits for it.  Its *callers* wait until the worker is ready, put a request
into the inbox, and wait for the reply; each of them may give up at any moment.

Whatever happens without a pause is one `Event`.  `Worker.step` is none where an event cannot
happen, so a caller that has to wait has no step, and a worker that can go no further has none at
all.  A caller is known by its *ticket*, the number of submissions before its own.

A task that dies lets go of its two queues one after the other: its outbox first, so that the router
can come to its end, and its inbox after that.  In between callers can still send.

The `journal` tells in which order requests entered the inbox, were taken from it, and were
answered, and which of them entered when the router had ended.

## Main definitions

* `Worker`: queues, waiting callers and the state that callers see.
* `Worker.Event`, `Worker.step`: what may happen, and what it changes.
* `Worker.spawn`: a new worker that has been told its session.
* `Worker.run`: several events in a row.
-/

namespace Clearance

/-- What lies in an inbox. -/
inductive Envelope where
  | start (session : WorkerSession)
  | decrypt (ticket : Nat) (ciphertext : List UInt8)
  deriving DecidableEq, Repr

/-- What lies in an outbox. -/
inductive Posting where
  | ready
  | result (ticket : Nat) (outcome : Outcome)
  deriving DecidableEq, Repr

/-- How far a caller has come: it waits for the worker to be ready, its request was sent, it has its
result, it gave up. -/
inductive Phase where
  | waiting
  | sent
  | done (result : Except PoolFault Outcome)
  | withdrawn

/-- A caller and its request. -/
structure Submission where
  ciphertext : List UInt8
  phase : Phase := .waiting

/-- The order in which the requests of a worker passed its stations, by ticket. -/
structure Worker.Journal where
  entered : List Nat := []
  taken : List Nat := []
  posted : List Nat := []
  /-- Those that entered when the router had ended. -/
  stranded : List Nat := []
  deriving DecidableEq, Repr

/-- A worker with its queues and its callers. -/
structure Worker where
  index : Nat
  /-- The state that callers see. -/
  state : WorkerState := .uninitialized
  /-- The session that the task was told. -/
  session : Option WorkerSession := none
  inbox : List Envelope := []
  /-- The inbox takes requests. -/
  accepting : Bool := true
  /-- The request for which the service is being asked. -/
  busy : Option (Nat × List UInt8) := none
  outbox : List Posting := []
  /-- The task goes on. -/
  alive : Bool := true
  /-- The router goes on. -/
  routing : Bool := true
  submissions : List Submission := []
  /-- The callers that wait for a reply. -/
  pending : List Nat := []
  /-- The replies that were handed to their callers. -/
  delivered : List (Nat × Outcome) := []
  journal : Worker.Journal := {}

namespace Worker

/-- What may happen to a worker. -/
inductive Event where
  /-- The worker is told its session. -/
  | tell (session : WorkerSession)
  /-- A caller comes with a request. -/
  | submit (ciphertext : List UInt8)
  /-- A caller goes on. -/
  | poll (ticket : Nat)
  /-- A caller gives up. -/
  | abandon (ticket : Nat)
  /-- The task takes the next request. -/
  | take
  /-- The service answers. -/
  | finish
  /-- The task dies while the service is asked, and lets go of its outbox. -/
  | die
  /-- A task that has died lets go of its inbox. -/
  | shut
  /-- The router hands on the next reply. -/
  | route
  /-- The router ends. -/
  | close
  deriving DecidableEq

/-- What a worker does by itself: its task and its router. -/
def Event.isInner : Event → Bool
  | .take | .finish | .die | .shut | .route | .close => true
  | .tell _ | .submit _ | .poll _ | .abandon _ => false

/-- Set how far a caller has come. -/
def setPhase (w : Worker) (ticket : Nat) (phase : Phase) : Worker :=
  { w with submissions := w.submissions.modify ticket fun s => { s with phase := phase } }

/-- Post a reply to a request. -/
def post (w : Worker) (ticket : Nat) (outcome : Outcome) : Worker :=
  { w with
    outbox := w.outbox ++ [.result ticket outcome]
    journal := { w.journal with posted := w.journal.posted ++ [ticket] } }

/-- A request enters the journal. -/
def Journal.enter (j : Journal) (ticket : Nat) (routing : Bool) : Journal :=
  { j with
    entered := j.entered ++ [ticket]
    stranded := if routing then j.stranded else j.stranded ++ [ticket] }

section Journal

variable (j : Journal) (ticket : Nat) (routing : Bool)

@[simp] theorem Journal.entered_enter :
    (j.enter ticket routing).entered = j.entered ++ [ticket] := rfl

@[simp] theorem Journal.taken_enter : (j.enter ticket routing).taken = j.taken := rfl

@[simp] theorem Journal.posted_enter : (j.enter ticket routing).posted = j.posted := rfl

end Journal

/-- A caller whose worker is ready registers for the reply and sends its request; if the inbox takes
none, nothing was sent and nothing stays registered. -/
def send (w : Worker) (ticket : Nat) (ciphertext : List UInt8) : Worker :=
  if w.accepting then
    { w.setPhase ticket .sent with
      pending := w.pending ++ [ticket]
      inbox := w.inbox ++ [.decrypt ticket ciphertext]
      journal := w.journal.enter ticket w.routing }
  else w.setPhase ticket (.done (.error (.workerGone w.index)))

/-- A caller goes on: from waiting to sent, or from sent to its result. -/
def poll (w : Worker) (ticket : Nat) : Option Worker :=
  let gone := w.setPhase ticket (.done (.error (.workerGone w.index)))
  match w.submissions[ticket]? with
  | some ⟨ciphertext, .waiting⟩ =>
    if w.state = .ready then some (w.send ticket ciphertext)
    else if w.routing then none
    else some gone
  | some ⟨_, .sent⟩ =>
    match w.delivered.lookup ticket with
    | some outcome => some (w.setPhase ticket (.done (.ok outcome)))
    | none => if ticket ∈ w.pending then none else some gone
  | _ => none

/-- A caller gives up.  Its registration goes with it; a request that was sent stays where it is. -/
def abandon (w : Worker) (ticket : Nat) : Option Worker :=
  match w.submissions[ticket]? with
  | some ⟨_, .waiting⟩ | some ⟨_, .sent⟩ =>
    some { w.setPhase ticket .withdrawn with pending := w.pending.filter (· ≠ ticket) }
  | _ => none

/-- The task takes the next request, unless it is busy or dead. -/
def take (w : Worker) : Option Worker :=
  if w.alive ∧ w.busy = none then
    match w.inbox with
    | [] => none
    | .start session :: rest =>
      some { w with session := some session, inbox := rest, outbox := w.outbox ++ [.ready] }
    | .decrypt ticket ciphertext :: rest =>
      let w : Worker :=
        { w with
          inbox := rest
          journal := { w.journal with taken := w.journal.taken ++ [ticket] } }
      match prepare w.session ciphertext with
      | .error outcome => some (w.post ticket outcome)
      | .ok _ => some { w with busy := some (ticket, ciphertext) }
  else none

/-- The service answers the call that is in progress. -/
def finish (service : Service) (w : Worker) : Option Worker :=
  match w.busy with
  | some (ticket, ciphertext) =>
    some ({ w with busy := none }.post ticket (decryptOne service w.session ciphertext))
  | none => none

/-- The task dies during a call.  Nothing more is posted; what was posted stays in the outbox, and
what was sent in the inbox. -/
def die (w : Worker) : Option Worker :=
  match w.busy with
  | some _ => some { w with alive := false, busy := none }
  | none => none

/-- The inbox of a task that has died takes no more requests, and what lies in it is gone. -/
def shut (w : Worker) : Option Worker :=
  if w.accepting ∧ w.alive = false then some { w with accepting := false, inbox := [] } else none

/-- The router hands on the next reply.  One whose caller is not registered any more is dropped. -/
def route (w : Worker) : Option Worker :=
  if w.routing then
    match w.outbox with
    | [] => none
    | .ready :: rest => some { w with outbox := rest, state := .ready }
    | .result ticket outcome :: rest =>
      if ticket ∈ w.pending then
        some
          { w with
            outbox := rest
            pending := w.pending.filter (· ≠ ticket)
            delivered := w.delivered ++ [(ticket, outcome)] }
      else some { w with outbox := rest }
  else none

/-- The router ends when the task has died and nothing is left to hand on; then no one stays
registered. -/
def close (w : Worker) : Option Worker :=
  if w.routing ∧ w.alive = false ∧ w.outbox = [] then
    some { w with routing := false, pending := [] }
  else none

/-- What an event changes; none where it cannot happen. -/
def step (service : Service) (w : Worker) : Event → Option Worker
  | .tell session =>
    if w.state = .uninitialized ∧ w.accepting then
      some { w with inbox := w.inbox ++ [.start session], state := .initializing }
    else none
  | .submit ciphertext => some { w with submissions := w.submissions ++ [{ ciphertext }] }
  | .poll ticket => w.poll ticket
  | .abandon ticket => w.abandon ticket
  | .take => w.take
  | .finish => w.finish service
  | .die => w.die
  | .shut => w.shut
  | .route => w.route
  | .close => w.close

/-- Several events in a row; none where one of them cannot happen. -/
def run (service : Service) (w : Worker) : List Event → Option Worker
  | [] => some w
  | e :: rest => (w.step service e).bind fun w => w.run service rest

/-- A worker before it was told anything. -/
def fresh (index : Nat) : Worker := { index }

/-- A new worker that has been told its session. -/
def spawn (index : Nat) (session : WorkerSession) : Worker :=
  { index, inbox := [.start session], state := .initializing }

/-- How many callers wait for a reply. -/
def inFlight (w : Worker) : Nat := w.pending.length

/-- How far the caller with a ticket has come. -/
def phase? (w : Worker) (ticket : Nat) : Option Phase := w.submissions[ticket]?.map (·.phase)

end Worker
end Clearance
