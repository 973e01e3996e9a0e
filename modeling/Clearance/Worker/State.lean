import Clearance.Json.Format

/-!
# The state of a worker, as its callers see it
-/

namespace Clearance

/-- How far a worker has come: it exists, it was told its session, it takes requests. -/
inductive WorkerState where
  | uninitialized
  | initializing
  | ready
  deriving DecidableEq, Repr

namespace WorkerState

/-- All states, in the order in which a worker comes to them. -/
def all : List WorkerState := [.uninitialized, .initializing, .ready]

/-- The name of a state. -/
def name : WorkerState → String
  | .uninitialized => "uninitialized"
  | .initializing => "initializing"
  | .ready => "ready"

/-- A state is written as its name. -/
def format : Json.Format WorkerState := .names (all.map fun s => (s.name, s)) name

end WorkerState
end Clearance
