import Clearance.Worker.Basic

/-!
# The worker pool

A pool grows by one worker at each acquisition until it has reached its capacity, and hands out
its workers in turn from then on.  All workers are told the same session.

## Main definitions

* `Pool`, `Pool.ofCapacity`: a pool with at least one place.
* `Pool.acquire`: the next worker.
* `Pool.Event`, `Pool.step`, `Pool.run`: what may happen in a pool, and what it changes.
-/

namespace Clearance

/-- Workers, the session that they are told, and whose turn it is once there are enough. -/
structure Pool where
  capacity : Nat
  session : WorkerSession
  workers : List Worker := []
  /-- The number of acquisitions since the pool has reached its capacity, in 64 bits. -/
  cursor : UInt64 := 0
  /-- The workers that were acquired, in order. -/
  acquired : List Nat := []

namespace Pool

/-- An empty pool with some places, of which there must be one at least. -/
def ofCapacity (capacity : Nat) (session : WorkerSession) : Except PoolFault Pool :=
  if capacity = 0 then .error .zeroCapacity else .ok { capacity, session }

/-- The number of workers. -/
def size (p : Pool) : Nat := p.workers.length

/-- The next worker: a new one while there is a place, then each in turn. -/
def acquire (p : Pool) : Nat × Pool :=
  if p.size < p.capacity then
    (p.size,
      { p with
        workers := p.workers ++ [.spawn p.size p.session]
        acquired := p.acquired ++ [p.size] })
  else
    let next := p.cursor.toNat % p.size
    (next, { p with cursor := p.cursor + 1, acquired := p.acquired ++ [next] })

/-- What may happen in a pool. -/
inductive Event where
  /-- Someone acquires a worker. -/
  | acquire
  /-- Something happens to a worker. -/
  | worker (index : Nat) (event : Worker.Event)
  deriving DecidableEq

/-- What an event changes; none where it cannot happen. -/
def step (service : Service) (p : Pool) : Event → Option Pool
  | .acquire => some p.acquire.2
  | .worker index event => do
    let w ← p.workers[index]?
    let w ← w.step service event
    return { p with workers := p.workers.set index w }

/-- Several events in a row; none where one of them cannot happen. -/
def run (service : Service) (p : Pool) : List Event → Option Pool
  | [] => some p
  | e :: rest => (p.step service e).bind fun p => p.run service rest

end Pool
end Clearance
