import Clearance.Event.Basic

/-!
# The event bus

A bus keeps the last events that were published and lets each listener read them at its own pace.
A listener that falls behind by more than the bus keeps is told how many it missed and goes on
with the oldest that is left.  Events published while no one listens are dropped.

Positions count the events that were ever kept: a listener at position `n` reads event `n` next.

## Main definitions

* `Bus`, `Bus.ofCapacity`: a bus that keeps a power of two events.
* `Bus.subscribe`, `Bus.unsubscribe`, `Bus.publish`, `Bus.close`: the operations.
* `Bus.receive`: what a listener reads next.
-/

namespace Clearance

/-- What a listener gets when it asks for the next event. -/
inductive Bus.Reading where
  | event (e : Event)
  | empty
  | lagged (missed : Nat)
  | closed
  deriving Repr

/-- A bus: the events it keeps, oldest first, the count of all it ever kept, and the position of
each listener, none once it has left. -/
structure Bus where
  capacity : Nat
  kept : List Event := []
  count : Nat := 0
  listeners : List (Option Nat) := []
  isClosed : Bool := false

namespace Bus

/-- The least power of two that is no less than `n`, from `p` upwards. -/
def powerFrom (n : Nat) : Nat → Nat → Nat
  | 0, p => p
  | fuel + 1, p => if n ≤ p then p else powerFrom n fuel (2 * p)

/-- A bus that keeps at least `n` events, and at least one. -/
def ofCapacity (n : Nat) : Bus := { capacity := powerFrom (max n 1) n 1 }

/-- A bus that keeps as many events as a screen needs. -/
def standard : Bus := ofCapacity 64

/-- The number of listeners. -/
def subscribers (b : Bus) : Nat := (b.listeners.filter Option.isSome).length

/-- A new listener, which hears what is published from now on. -/
def subscribe (b : Bus) : Nat × Bus :=
  (b.listeners.length, { b with listeners := b.listeners ++ [some b.count] })

/-- A listener leaves. -/
def unsubscribe (b : Bus) (i : Nat) : Bus := { b with listeners := b.listeners.set i none }

/-- Publish an event to those who listen. -/
def publish (b : Bus) (e : Event) : Bus :=
  if b.subscribers = 0 then b
  else
    let kept := b.kept ++ [e]
    { b with kept := kept.drop (kept.length - b.capacity), count := b.count + 1 }

/-- End the bus.  What it keeps can still be read. -/
def close (b : Bus) : Bus := { b with isClosed := true }

/-- The position of the oldest event that is kept. -/
def oldest (b : Bus) : Nat := b.count - b.kept.length

/-- What listener `i` reads next. -/
def receive (b : Bus) (i : Nat) : Reading × Bus :=
  let moveTo (n : Nat) : Bus := { b with listeners := b.listeners.set i (some n) }
  match b.listeners[i]?.join with
  | none => (.closed, b)
  | some next =>
    if next < b.oldest then (.lagged (b.oldest - next), moveTo b.oldest)
    else
      match b.kept[next - b.oldest]? with
      | some e => (.event e, moveTo (next + 1))
      | none => (if b.isClosed then .closed else .empty, b)

end Bus
end Clearance
