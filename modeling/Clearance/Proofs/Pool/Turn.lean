import Mathlib.Algebra.Order.BigOperators.Group.List
import Mathlib.Algebra.Order.Ring.Nat
import Clearance.Proofs.Pool.Workers
import Clearance.Proofs.Worker.Abandon

/-!
# Requests are served in turn

Each worker of a pool serves its requests one at a time, in the order in which they were sent to it.
So there are never more calls of the service in progress than the pool has places, whoever comes and
whoever gives up.  A call that never returns holds up what stands behind it in the inbox of its
worker; no other worker knows of it.

## Main definitions

* `Pool.callsAt`: the calls that a worker of a pool makes in a run
* `Pool.callsInProgress`: how many calls the whole pool has in progress

## Main results

* `Pool.served_in_turn`: one call at a time for each worker, requests in the order of the line, and
  callers that give up change neither
-/

namespace Clearance.Pool

open Worker (spawn Call)

variable {service : Service} {session : WorkerSession} {p₀ p : Pool} {es : List Event}
  {i capacity : Nat} {w : Worker}

/-- The calls that a worker of a pool makes in a run. -/
def callsAt (service : Service) (session : WorkerSession) (es : List Event) (i : Nat) : List Call :=
  (spawn i session).calls service (eventsAt i es)

/-- How many calls of the service are in progress after a run, over all workers of the pool. -/
def callsInProgress (service : Service) (es : List Event) (p : Pool) : Nat :=
  ((List.range p.size).map fun i =>
    (Call.inProgress (callsAt service p.session es i)).length).sum

theorem session_step {e : Event} {p' : Pool} (h : p.step service e = some p') :
    p'.session = p.session := by
  obtain ⟨-, rfl⟩ | ⟨i, f, w, w', -, -, -, rfl⟩ := step_cases h
  · rw [acquire]
    split <;> rfl
  · rfl

theorem session_run {p' : Pool} (h : p.run service es = some p') : p'.session = p.session :=
  invariant_run (P := fun q => q.session = p.session) (fun hq hs => (session_step hs).trans hq) h rfl

/-- Every worker of a pool is told the session of the pool. -/
theorem session_eq (h₀ : ofCapacity capacity session = .ok p₀) (h : p₀.run service es = some p) :
    p.session = session := by
  rw [session_run h]
  obtain ⟨-, rfl⟩ := eq_of_ofCapacity h₀
  rfl

/-- **No pool has more calls in progress than places.** -/
theorem callsInProgress_le (h₀ : ofCapacity capacity session = .ok p₀)
    (h : p₀.run service es = some p) : callsInProgress service es p ≤ capacity := by
  -- each worker has one at most, and there are no more workers than places
  have hone : ∀ n ∈ (List.range p.size).map fun i =>
      (Call.inProgress (callsAt service p.session es i)).length, n ≤ 1 := by
    intro n hn
    obtain ⟨i, hi, rfl⟩ := List.mem_map.mp hn
    have hlt : i < p.workers.length := List.mem_range.mp hi
    have hrun := run_worker h₀ h (List.getElem?_eq_getElem hlt)
    rw [← session_eq h₀ h] at hrun
    exact (Worker.oneByOne_run hrun).length_inProgress_le
  have hsum := List.sum_le_card_nsmul _ 1 hone
  rw [List.length_map, List.length_range, Nat.nsmul_eq_mul, Nat.mul_one] at hsum
  exact Nat.le_trans hsum (size_le_capacity h₀ h)

/-- **Every worker of a pool serves its requests one at a time and in turn.**  Take a pool at any
moment of any run.

* It has no more calls of the service in progress than places.
* A worker has one at most, that for which it is busy.  Its calls stand one after the other: each
  has returned before the next one begins.
* It takes requests in the order in which they entered its inbox, calls the service for them in the
  order in which it takes them, and answers them in that order.  No request enters twice.
* It takes the next one only when it is idle, and then it has answered all that it has taken.
* A caller that gives up leaves the queues of its worker and the call in progress as they are.
  Whatever happens afterwards that is not a step of its own happens in the same way as if it had
  stayed, with the same calls of the service.
* If it was waiting for the worker to be ready, then its request is never sent. -/
theorem served_in_turn (h₀ : ofCapacity capacity session = .ok p₀)
    (h : p₀.run service es = some p) :
    callsInProgress service es p ≤ capacity ∧
    ∀ i w, p.workers[i]? = some w →
      w.OneByOne (callsAt service session es i) ∧
      Call.inProgress (callsAt service session es i) = (w.busy.map Prod.fst).toList ∧
      ((callsAt service session es i).filterMap Call.begun?).Sublist w.journal.taken ∧
      w.InTurn ∧ w.journal.posted <+: w.journal.taken ∧ w.journal.taken <+: w.journal.entered ∧
      w.journal.entered.Nodup ∧
      (∀ w', w.step service .take = some w' →
        w.busy = none ∧ w.journal.posted = w.journal.taken) ∧
      ∀ t w', w.step service (.abandon t) = some w' →
        (w'.inbox = w.inbox ∧ w'.busy = w.busy ∧ w'.outbox = w.outbox ∧
          w'.journal = w.journal) ∧
        (∀ later, .poll t ∉ later → .abandon t ∉ later →
          (w'.run service later).map (·.without t) = (w.run service later).map (·.without t) ∧
          w'.calls service later = w.calls service later) ∧
        (w.phase? t = some .waiting → ∀ later w'', w'.run service later = some w'' →
          t ∉ w''.journal.entered ∧ ∀ c, .decrypt t c ∉ w''.inbox) := by
  refine ⟨callsInProgress_le h₀ h, fun i w hw => ?_⟩
  have hrun : (spawn i session).run service (eventsAt i es) = some w := run_worker h₀ h hw
  have hs : w.Sound service session := Worker.sound_run hrun
  have hcalls : w.OneByOne (callsAt service session es i) := Worker.oneByOne_run hrun
  have hturn : w.InTurn := Worker.inTurn_run hrun
  refine ⟨hcalls, hcalls.inProgress_eq, Worker.begun_sublist_taken hrun, hturn,
    hturn.posted_prefix, hturn.taken_prefix, hs.known.nodup, fun w' htake => hturn.of_take htake,
    fun t w' ha => ⟨?_, fun later hpoll habandon => ?_, fun hp later w'' hlater => ?_⟩⟩
  · cases Worker.Move.of_step ha with
    | abandon => exact ⟨rfl, rfl, rfl, rfl⟩
  · exact Worker.run_abandon ha hpoll habandon
  · have hnot := Worker.not_entered_of_abandon hs.known hp ha hlater
    have hline : w''.InLine :=
      Worker.invariant_run (fun hv hm => hv.move hm) hlater (hs.inLine.move (.of_step ha))
    exact ⟨hnot, fun c hc => hnot (hline.entered_of_inbox hc)⟩

/-- Workers 0 and 1 are each busy with a request, and worker 0 has another one in its inbox; a
caller of worker 2 waits until that has read its session. -/
def twoAtOnce : List Event :=
  [.acquire, .acquire, .acquire, .worker 0 .take, .worker 1 .take, .worker 0 .route,
    .worker 0 (.submit [1]), .worker 0 (.submit [2]), .worker 1 .route, .worker 1 (.submit [3]),
    .worker 0 (.poll 0), .worker 0 (.poll 1), .worker 0 .take, .worker 1 (.poll 0),
    .worker 2 (.submit [4]), .worker 1 .take]

theorem served_in_turn_of_two :
    ∃ p₀ p w v, ofCapacity 3 ⟨{}, ⟨"", "r"⟩⟩ = .ok p₀ ∧
      p₀.run (fun _ => .ok "text") twoAtOnce = some p ∧
      callsInProgress (fun _ => .ok "text") twoAtOnce p = 2 ∧
      callsInProgress (fun _ => .ok "text") twoAtOnce p ≤ 3 ∧
      p.workers[0]? = some w ∧ p.workers[2]? = some v ∧
      Call.inProgress (callsAt (fun _ => .ok "text") ⟨{}, ⟨"", "r"⟩⟩ twoAtOnce 0) = [0] ∧
      (∃ w', w.step (fun _ => .ok "text") (.abandon 0) = some w' ∧
        w'.calls (fun _ => .ok "text") [.finish, .take] = [.returned 0, .begun 1] ∧
        (w'.run (fun _ => .ok "text") [.finish, .take]).map (·.without 0) =
          (w.run (fun _ => .ok "text") [.finish, .take]).map (·.without 0)) ∧
      ∃ v', v.step (fun _ => .ok "text") (.abandon 0) = some v' ∧
        ∀ later v'', v'.run (fun _ => .ok "text") later = some v'' →
          0 ∉ v''.journal.entered := by
  obtain ⟨p₀, p, w, v, w', v', h₀, h, hcalls, hw, hv, busy, haw, hnext, hp, hav⟩ :
      ∃ p₀ p w v w' v', ofCapacity 3 ⟨{}, ⟨"", "r"⟩⟩ = .ok p₀ ∧
        p₀.run (fun _ => .ok "text") twoAtOnce = some p ∧
        callsInProgress (fun _ => .ok "text") twoAtOnce p = 2 ∧
        p.workers[0]? = some w ∧ p.workers[2]? = some v ∧ w.busy = some (0, [1]) ∧
        w.step (fun _ => .ok "text") (.abandon 0) = some w' ∧
        w.calls (fun _ => .ok "text") [.finish, .take] = [.returned 0, .begun 1] ∧
        v.phase? 0 = some .waiting ∧ v.step (fun _ => .ok "text") (.abandon 0) = some v' :=
    ⟨_, _, _, _, _, _, rfl, rfl, rfl, rfl, rfl, rfl, rfl, rfl, rfl, rfl⟩
  obtain ⟨hle, hturn⟩ := served_in_turn h₀ h
  obtain ⟨-, hone, -, -, -, -, -, -, hgone⟩ := hturn 0 w hw
  obtain ⟨-, -, -, -, -, -, -, -, hunsent⟩ := hturn 2 v hv
  obtain ⟨-, hsame, -⟩ := hgone 0 w' haw
  obtain ⟨-, -, hnever⟩ := hunsent 0 v' hav
  obtain ⟨hrest, hcall⟩ := hsame [.finish, .take] (by decide) (by decide)
  rw [busy] at hone
  exact ⟨p₀, p, w, v, h₀, h, hcalls, hle, hw, hv, hone,
    ⟨w', haw, hcall.trans hnext, hrest⟩, v', hav,
    fun later v'' hlater => (hnever hp later v'' hlater).1⟩

end Clearance.Pool
