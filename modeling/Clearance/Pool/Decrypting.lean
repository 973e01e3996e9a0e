import Clearance.Pool.Basic

/-!
# Decrypting many ciphertexts at once

Whoever wants a ciphertext decrypted acquires a worker of the pool, puts the request to it, and
waits.  Many callers do so side by side, and each of them may be held up between its steps for as
long as others go on.  Workers go on by themselves.

## Main definitions

* `Decrypting`, `Decrypting.start`: a pool and the calls that use it, before any of them has begun.
* `Decrypting.Event`, `Decrypting.step`, `Decrypting.run`: what may happen, and what it changes.
* `Decrypting.results`: what the calls have come to.
-/

namespace Clearance

/-- How far a call has come: it has no worker yet, it has one, its request was put to it. -/
inductive Decrypting.Stage where
  | begun
  | acquired (worker : Nat)
  | submitted (worker ticket : Nat)
  deriving DecidableEq, Repr

/-- A call and how far it has come. -/
structure Decrypting.Call where
  ciphertext : List UInt8
  stage : Decrypting.Stage := .begun
  deriving DecidableEq, Repr

/-- A pool and the calls that use it. -/
structure Decrypting where
  pool : Pool
  calls : List Decrypting.Call

namespace Decrypting

/-- A pool and the ciphertexts that are to be decrypted. -/
def start (pool : Pool) (ciphertexts : List (List UInt8)) : Decrypting :=
  ⟨pool, ciphertexts.map fun c => { ciphertext := c }⟩

/-- What may happen. -/
inductive Event where
  /-- A call acquires a worker. -/
  | acquire (call : Nat)
  /-- A call puts its request to its worker. -/
  | submit (call : Nat)
  /-- A call that waits goes on. -/
  | poll (call : Nat)
  /-- A worker goes on by itself. -/
  | worker (index : Nat) (event : Worker.Event)
  deriving DecidableEq

/-- What an event changes; none where it cannot happen. -/
def step (service : Service) (d : Decrypting) : Event → Option Decrypting
  | .acquire i =>
    match d.calls[i]? with
    | some ⟨ciphertext, .begun⟩ =>
      let (index, pool) := d.pool.acquire
      some ⟨pool, d.calls.set i ⟨ciphertext, .acquired index⟩⟩
    | _ => none
  | .submit i =>
    match d.calls[i]? with
    | some ⟨ciphertext, .acquired index⟩ => do
      let w ← d.pool.workers[index]?
      let pool ← d.pool.step service (.worker index (.submit ciphertext))
      return ⟨pool, d.calls.set i ⟨ciphertext, .submitted index w.submissions.length⟩⟩
    | _ => none
  | .poll i =>
    match d.calls[i]? with
    | some ⟨_, .submitted index ticket⟩ => do
      let pool ← d.pool.step service (.worker index (.poll ticket))
      return { d with pool }
    | _ => none
  | .worker index event =>
    if event.isInner then do
      let pool ← d.pool.step service (.worker index event)
      return { d with pool }
    else none

/-- Several events in a row; none where one of them cannot happen. -/
def run (service : Service) (d : Decrypting) : List Event → Option Decrypting
  | [] => some d
  | e :: rest => (d.step service e).bind fun d => d.run service rest

/-- What a call has come to; none as long as it waits. -/
def Call.result? (call : Call) (pool : Pool) : Option (Except PoolFault Outcome) :=
  match call.stage with
  | .submitted index ticket =>
    match pool.workers[index]?.bind (·.phase? ticket) with
    | some (.done result) => some result
    | _ => none
  | _ => none

/-- What the calls have come to, in order. -/
def results (d : Decrypting) : List (Option (Except PoolFault Outcome)) :=
  d.calls.map (·.result? d.pool)

end Decrypting
end Clearance
