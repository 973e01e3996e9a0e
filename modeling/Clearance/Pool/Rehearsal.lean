import Clearance.Pool.Basic
import Clearance.Pool.Script

/-!
# Rehearsals

A run of a pool against scripted services on a clock of its own.  Work takes no time; the clock
moves only when callers, tasks and routers all wait, and then straight to the next moment at which
one of them is due, in whole milliseconds.  When callers and workers are due at the same moment,
the callers go first.  Every change is an event of the pool.

## Main definitions

* `Rehearsal`: a pool, the clock, and the calls that wait for their time.
* `Plan`, `Finding`: what a caller does, and what comes of it.
* `Rehearsal.perform`: several callers at once.
-/

namespace Clearance

/-- What a caller does. -/
inductive Plan where
  /-- Ask for a ciphertext to be decrypted, by a given worker or the next one.  The caller may set a
  deadline, and may drop its request after some milliseconds. -/
  | decrypt (worker : Option Nat) (ciphertext : List UInt8) (deadline : Option Duration)
      (abandon : Option Nat)
  /-- Wait for some milliseconds and look at the workers. -/
  | look (milliseconds : Nat)

/-- A worker as its callers see it. -/
structure WorkerView where
  index : Nat
  state : WorkerState
  inFlight : Nat
  deriving DecidableEq, Repr

/-- What comes of a plan, after how many milliseconds. -/
inductive Finding where
  | result (value : Except PoolFault Outcome) (at_ : Nat)
  | abandoned (at_ : Nat)
  /-- Nothing came within an hour. -/
  | nothing
  | workers (views : List WorkerView)

/-- A call to a service that waits for its time. -/
structure Alarm where
  worker : Nat
  due : Nat
  deriving DecidableEq, Repr

/-- A pool on a clock, with the calls that services will answer, and the count of all calls. -/
structure Rehearsal where
  pool : Pool
  clock : Nat := 0
  alarms : List Alarm := []
  calls : Nat := 0
  nanoCalls : Nat := 0

namespace Rehearsal

/-- The longest time for which a caller waits. -/
def patience : Nat := 3600000

/-- An event of the pool, if it can happen. -/
def happen? (r : Rehearsal) (e : Pool.Event) : Option Rehearsal :=
  (r.pool.step Script.service e).map fun p => { r with pool := p }

/-- An event of the pool, which is passed over if it cannot happen. -/
def apply (r : Rehearsal) (e : Pool.Event) : Rehearsal := (r.happen? e).getD r

/-- The number of things that lie in the queues of a worker. -/
def queued (r : Rehearsal) (i : Nat) : Nat :=
  match r.pool.workers[i]? with
  | some w => w.inbox.length + w.outbox.length + 1
  | none => 0

/-- The workers of the pool. -/
def indices (r : Rehearsal) : List Nat := List.range r.pool.size

/-! ## Workers -/

/-- Start the call of a worker that has become busy, and let it end where that takes no time. -/
def startCall (r : Rehearsal) (i : Nat) : Rehearsal :=
  match r.pool.workers[i]?.bind fun w => w.busy.map fun b => prepare w.session b.2 with
  | some (.ok call) =>
    let r :=
      { r with
        calls := r.calls + 1
        nanoCalls := r.nanoCalls + if call.codec = .nano then 1 else 0 }
    match (Script.ofCall call).timing with
    | .after 0 => r.apply (.worker i .finish)
    | .after n => { r with alarms := r.alarms ++ [⟨i, r.clock + n⟩] }
    | .never => r
    | .dies => (r.apply (.worker i .die)).apply (.worker i .shut)
  | _ => r

/-- Let a task take requests until it has to wait. -/
def attend (i : Nat) : Nat → Rehearsal → Rehearsal
  | 0, r => r
  | fuel + 1, r =>
    match r.happen? (.worker i .take) with
    | some r => attend i fuel (r.startCall i)
    | none => r

/-- Let a router hand on replies until it has to wait, or ends. -/
def deliver (i : Nat) : Nat → Rehearsal → Rehearsal
  | 0, r => r.apply (.worker i .close)
  | fuel + 1, r =>
    match r.happen? (.worker i .route) with
    | some r => deliver i fuel r
    | none => r.apply (.worker i .close)

/-- Let the services answer whose time has come. -/
def ring (r : Rehearsal) : Rehearsal :=
  let (due, later) := r.alarms.partition fun a => a.due ≤ r.clock
  due.foldl (fun r a => r.apply (.worker a.worker .finish)) { r with alarms := later }

/-- Let all tasks and routers go on until they have to wait. -/
def settle (r : Rehearsal) : Rehearsal :=
  r.indices.foldl
    (fun r i =>
      let r := attend i (r.queued i) r
      deliver i (r.queued i) r)
    r.ring

/-! ## Callers -/

/-- A caller: its plan, and the worker and the ticket of its request once that was made. -/
structure Caller where
  plan : Plan
  request : Option (Nat × Nat) := none
  finding : Option Finding := none

/-- The moments at which a caller is due, counted from its start. -/
def Caller.moments (c : Caller) : List Nat :=
  if c.finding.isSome then []
  else
    match c.plan with
    | .decrypt _ _ deadline abandon =>
      (deadline.map Duration.milliseconds).toList ++ abandon.toList ++ [patience]
    | .look n => [n]

/-- The workers as their callers see them. -/
def views (r : Rehearsal) (indices : List Nat) : List WorkerView :=
  indices.filterMap fun i => r.pool.workers[i]?.map fun w => ⟨w.index, w.state, w.inFlight⟩

/-- Make the request of a caller. -/
def makeRequest (r : Rehearsal) (worker : Option Nat) (ciphertext : List UInt8) :
    (Nat × Nat) × Rehearsal :=
  let (i, r) : Nat × Rehearsal :=
    match worker with
    | some i => (i, r)
    | none => (r.pool.acquire.1, r.apply .acquire)
  let ticket := (r.pool.workers[i]?.map fun w => w.submissions.length).getD 0
  ((i, ticket), r.apply (.worker i (.submit ciphertext)))

/-- What has come of a request after `elapsed` milliseconds.  A result comes before a deadline, a
deadline before the wish to drop the request. -/
def outcomeOf (r : Rehearsal) (request : Nat × Nat) (deadline : Option Duration)
    (abandon : Option Nat) (elapsed : Nat) : Option Finding × Rehearsal :=
  let (i, ticket) := request
  let r := r.apply (.worker i (.poll ticket))
  let giveUp (f : Finding) : Option Finding × Rehearsal :=
    (some f, r.apply (.worker i (.abandon ticket)))
  match r.pool.workers[i]?.bind fun w => w.phase? ticket with
  | some (.done value) => (some (.result value elapsed), r)
  | _ =>
    match deadline.filter fun d => d.milliseconds ≤ elapsed with
    | some d => giveUp (.result (.error (.timeout i d)) elapsed)
    | none =>
      if (abandon.map fun n => decide (n ≤ elapsed)).getD false then giveUp (.abandoned elapsed)
      else if patience ≤ elapsed then giveUp .nothing
      else (none, r)

/-- Let a caller go on, `elapsed` milliseconds after its start. -/
def advance (r : Rehearsal) (shown : List Nat) (elapsed : Nat) (c : Caller) : Caller × Rehearsal :=
  if c.finding.isSome then (c, r)
  else
    match c.plan with
    | .look n =>
      if n ≤ elapsed then ({ c with finding := some (.workers (r.views shown)) }, r) else (c, r)
    | .decrypt worker ciphertext deadline abandon =>
      let (request, r) :=
        match c.request with
        | some request => (request, r)
        | none => r.makeRequest worker ciphertext
      let (finding, r) := r.outcomeOf request deadline abandon elapsed
      ({ c with request := some request, finding := finding }, r)

/-- Let all callers go on, in order, with the numbers of those that come to an end. -/
def advanceAll (r : Rehearsal) (shown : List Nat) (elapsed : Nat) (callers : List Caller) :
    List Nat × List Caller × Rehearsal :=
  callers.zipIdx.foldl
    (fun (ended, done, r) (c, k) =>
      let (c', r) := r.advance shown elapsed c
      (if c.finding.isNone && c'.finding.isSome then ended ++ [k] else ended, done ++ [c'], r))
    ([], [], r)

/-- Some caller can go on without waiting. -/
def isAwaited (r : Rehearsal) (callers : List Caller) : Bool :=
  callers.any fun c =>
    c.finding.isNone &&
      match c.request with
      | some (i, ticket) => (r.happen? (.worker i (.poll ticket))).isSome
      | none => false

/-- The next moment at which a caller or a service is due. -/
def nextMoment (r : Rehearsal) (start : Nat) (callers : List Caller) : Option Nat :=
  let moments :=
    (callers.flatMap fun c => c.moments.map (start + ·)) ++ r.alarms.map (·.due)
  (moments.filter (r.clock < ·)).min?

/-- Let callers and workers go on in turn until all callers have come to an end.  With the numbers
of the callers in the order in which they came to it. -/
def rounds (start : Nat) (shown : List Nat) :
    Nat → List Nat → List Caller → Rehearsal → List Nat × List Caller × Rehearsal
  | 0, order, callers, r => (order, callers, r)
  | fuel + 1, order, callers, r =>
    let (ended, callers, r) := r.advanceAll shown (r.clock - start) callers
    let order := order ++ ended
    if callers.all fun c => c.finding.isSome then (order, callers, r)
    else
      let r := r.settle
      if r.isAwaited callers then rounds start shown fuel order callers r
      else
        match r.nextMoment start callers with
        | some t => rounds start shown fuel order callers { r with clock := t }
        | none => (order, callers, r)

/-- How many rounds can be needed: each lets a caller go on, or moves the clock to a moment at
which a caller or a service is due. -/
def roundLimit (r : Rehearsal) (plans : List Plan) : Nat :=
  let queued := r.indices.foldr (fun k n => r.queued k + n) 0
  8 * (plans.length + queued + r.pool.size + 1)

/-- Several callers at once: the findings in the order in which they came, each with the number of
its caller.  `shown` are the workers that a look shows. -/
def perform (r : Rehearsal) (shown : List Nat) (plans : List Plan) :
    List (Nat × Finding) × Rehearsal :=
  let callers := plans.map fun p => ({ plan := p } : Caller)
  let (order, callers, r) := rounds r.clock shown (r.roundLimit plans) [] callers r
  (order.filterMap fun k => callers[k]?.bind fun c => c.finding.map fun f => (k, f), r)

/-- Let some time pass. -/
def pause (r : Rehearsal) (milliseconds : Nat) : Rehearsal := (r.perform [] [.look milliseconds]).2

end Rehearsal
end Clearance
