import Clearance.Worker.Basic

/-!
# How a worker comes into being

A worker is made in four steps.  Its task goes on first, with nothing in the inbox; then its session
is sent to it; then callers are shown that it was told, unless the task was gone by then; and at the
end its router goes on.  Other things happen between these steps: the task may take its session and
say that it is ready before callers are shown anything, and callers may come at any time.

`Worker.spawn` is a worker whose making nothing came between.

## Main definitions

* `Birth`, `Birth.Stage`: a worker that is being made, and how far that has come.
* `Birth.step`, `Birth.run`: the steps of its maker and whatever happens to the worker.
-/

namespace Clearance

/-- How far the making of a worker has come: its task goes on, its session was sent, callers were
shown so, its router goes on. -/
inductive Birth.Stage where
  | running
  | told
  | shown
  | complete
  deriving DecidableEq, Repr

/-- A worker that is being made, and the session that it is to be told. -/
structure Birth where
  worker : Worker
  session : WorkerSession
  stage : Birth.Stage := .running

namespace Birth

/-- What may happen while a worker is made and after that. -/
inductive Event where
  /-- The maker takes its next step. -/
  | advance
  /-- Something happens to the worker. -/
  | worker (event : Worker.Event)
  deriving DecidableEq

/-- A worker of which only the task goes on. -/
def begin (index : Nat) (session : WorkerSession) : Birth :=
  { worker := .fresh index, session }

/-- The next step of the maker. -/
def advance (b : Birth) : Option Birth :=
  match b.stage with
  | .running =>
    -- a session that cannot be sent is not shown to callers
    if b.worker.accepting then
      some
        { b with
          worker := { b.worker with inbox := b.worker.inbox ++ [.start b.session] }
          stage := .told }
    else some { b with stage := .shown }
  | .told => some { b with worker := { b.worker with state := .initializing }, stage := .shown }
  | .shown => some { b with stage := .complete }
  | .complete => none

/-- What may happen to the worker: only its maker tells it a session, and its router does nothing
before it goes on. -/
def Stage.permits (stage : Stage) : Worker.Event → Bool
  | .tell _ => false
  | .route | .close => stage = .complete
  | .submit _ | .poll _ | .abandon _ | .take | .finish | .die | .shut => true

/-- What an event changes; none where it cannot happen. -/
def step (service : Service) (b : Birth) : Event → Option Birth
  | .advance => b.advance
  | .worker event =>
    if b.stage.permits event then
      (b.worker.step service event).map fun w => { b with worker := w }
    else none

/-- Several events in a row; none where one of them cannot happen. -/
def run (service : Service) (b : Birth) : List Event → Option Birth
  | [] => some b
  | e :: rest => (b.step service e).bind fun b => b.run service rest

/-- A worker whose making nothing came between is a new worker that has been told its session. -/
theorem run_advance (service : Service) (index : Nat) (session : WorkerSession) :
    (begin index session).run service [.advance, .advance, .advance] =
      some { worker := .spawn index session, session, stage := .complete } := rfl

end Birth
end Clearance
