import Clearance.Proofs.Pool.Workers
import Clearance.Proofs.Worker.Birth
import Clearance.Proofs.Worker.Death

/-!
# The session of a pool comes first

A worker is told the session of its pool before anyone can send it a request.  This holds in
whatever order its maker, its task, its router and its callers take their steps.  In particular the
task may be ready before its maker has shown anyone that it was told; the word of the task is not
overwritten, since the router hands it on and goes on last.

## Main results

* `Pool.initialised_first`: a worker gets ready step by step, requests enter only then, and those
  that come earlier wait
-/

namespace Clearance.Pool

open Worker (spawn submitted)
open Birth (workerEvents)

variable {service : Service} {session : WorkerSession} {b : Birth} {es : List Birth.Event}
  {index : Nat}

/-- **A worker is initialised before it gets requests.**  Take a worker in the making at any moment,
whatever its maker, its task, its router and its callers have done so far.

* Callers see it uninitialised, initialising and ready, in this order and with nothing skipped.
* No request is in its inbox, or ever was, unless it is ready.
* When the task has a request to take or is busy with one, its session is the one of the maker.
* A caller that got a reply got the outcome of its request in that session.  No reply says that the
  request came too early.
* A caller of a worker that is not ready waits or has given up.  As long as the task lives, a caller
  waits, has given up, or has sent its request; and one that waits for a worker that is ready sends
  its request when it goes on.  The others found the task dead.
* A worker that is not ready can go on without its callers, and does so at most five times.
* The workers of a pool with this session are such workers after their making. -/
theorem initialised_first (h : (Birth.begin index session).run service es = some b) :
    (∀ f b', b.step service f = some b' →
      b'.worker.state = b.worker.state ∨
      b.worker.state = .uninitialized ∧ b'.worker.state = .initializing ∨
      b.worker.state = .initializing ∧ b'.worker.state = .ready) ∧
    (∀ later b', b.run service later = some b' →
      b.worker.state.rank ≤ b'.worker.state.rank) ∧
    (∀ t, t ∈ b.worker.journal.entered ∨ (∃ c, .decrypt t c ∈ b.worker.inbox) →
      b.worker.state = .ready) ∧
    (∀ t c, .decrypt t c ∈ b.worker.inbox ∨ b.worker.busy = some (t, c) →
      b.worker.session = some session) ∧
    (∀ t c, (submitted (workerEvents es))[t]? = some c → ∃ p, b.worker.phase? t = some p ∧
      (∀ o, p = .done (.ok o) → o = decryptOne service (some session) c ∧
        o.error ≠ Outcome.uninitialized.error) ∧
      (b.worker.state ≠ .ready → p = .waiting ∨ p = .withdrawn) ∧
      (p = .waiting ∨ p = .withdrawn ∨ t ∈ b.worker.journal.entered ∨
        b.worker.alive = false ∧ p = .done (.error (.workerGone index))) ∧
      (b.worker.state = .ready → b.worker.alive = true → p = .waiting →
        ∃ b', b.step service (.worker (.poll t)) = some b' ∧
          b'.worker.phase? t = some .sent ∧
          b'.worker.inbox = b.worker.inbox ++ [.decrypt t c] ∧
          b'.worker.journal.entered = b.worker.journal.entered ++ [t])) ∧
    (b.worker.state ≠ .ready → es.countP Birth.Event.isInner < 5 ∧
      ∃ f : Birth.Event, f.isInner = true ∧ (b.step service f).isSome = true) ∧
    ∀ capacity p₀ p fs w, ofCapacity capacity session = .ok p₀ →
      p₀.run service fs = some p → p.workers[index]? = some w →
      (Birth.begin index session).run service
        ([.advance, .advance, .advance] ++ (eventsAt index fs).map .worker) =
        some { worker := w, session, stage := .complete } := by
  have hm : b.Made service session := (Birth.made_begin service index session).run h
  have hspawned := Birth.run_asSpawned h
  refine ⟨fun f b' hstep => hm.state_step hstep, fun later b' hlater => hm.rank_run hlater,
    fun t ht => ?_, fun t c hc => hm.session_of_request hc, fun t c ht => ?_, fun hs => ⟨?_, ?_⟩,
    fun capacity p₀ p fs w h₀ hp hw => ?_⟩
  · obtain ht | ⟨c, hc⟩ := ht
    · exact hm.ready_of_mem_entered ht
    · exact hm.ready_of_inbox hc
  · have hc : b.worker.ciphertext? t = some c := by
      rw [← Birth.ciphertext?_asSpawned, Worker.ciphertext?_run rfl hspawned, ht]
    obtain ⟨p, hp⟩ := Worker.exists_phase? hc
    refine ⟨p, hp, ?_, fun hs => hm.caller_of_not_ready hs hp, ?_, ?_⟩
    · rintro o rfl
      exact hm.outcome_of_done hc hp
    · have hindex : b.worker.index = index := by
        rw [← Birth.index_asSpawned, Worker.index_run hspawned]
        rfl
      exact hindex ▸ hm.caller_cases hp
    · rintro hs ha rfl
      exact hm.send_of_waiting hs ha hc hp
  · have hleft := (Birth.made_begin service index session).left_run h hs
    have hpos := Birth.left_pos hs
    have hfive : (Birth.begin index session).left = 5 := rfl
    omega
  · exact hm.exists_inner_step hs
  · have hmade : Birth.Made service session
        { worker := spawn index session, session, stage := .complete } :=
      (Birth.made_begin service index session).run (Birth.run_advance service index session)
    exact hmade.run_worker rfl (run_worker h₀ hp hw)

/-- A caller comes before the worker was told anything.  The task says that it is ready before its
maker shows that it was told, and another caller gives up before the router hands that on. -/
def earlyCaller : List Birth.Event :=
  [.worker (.submit [1]), .advance, .worker .take, .worker (.submit [2]), .advance, .advance,
    .worker (.abandon 1), .worker .route]

theorem initialised_first_of_earlyCaller :
    ∃ b, (Birth.begin 0 ⟨{}, ⟨"", "r"⟩⟩).run (fun _ => .ok "text") earlyCaller = some b ∧
      b.worker.state = .ready ∧ b.worker.phase? 1 = some .withdrawn ∧
      b.worker.phase? 0 = some .waiting ∧
      ∃ b', b.step (fun _ => .ok "text") (.worker (.poll 0)) = some b' ∧
        b'.worker.phase? 0 = some .sent ∧ b'.worker.inbox = [.decrypt 0 [1]] ∧
        b'.worker.journal.entered = [0] := by
  obtain ⟨b, h, ready, alive, inbox, entered, h1, h0⟩ :
      ∃ b, (Birth.begin 0 ⟨{}, ⟨"", "r"⟩⟩).run (fun _ => .ok "text") earlyCaller = some b ∧
        b.worker.state = .ready ∧ b.worker.alive = true ∧ b.worker.inbox = [] ∧
        b.worker.journal.entered = [] ∧ b.worker.phase? 1 = some .withdrawn ∧
        b.worker.phase? 0 = some .waiting :=
    ⟨_, rfl, rfl, rfl, rfl, rfl, rfl, rfl⟩
  obtain ⟨-, -, -, -, hcallers, -, -⟩ := initialised_first h
  obtain ⟨p, hp, -, -, -, hsend⟩ := hcallers 0 [1] rfl
  obtain rfl : p = .waiting := Option.some.inj (hp.symm.trans h0)
  obtain ⟨b', hstep, hsent, hinbox, hentered⟩ := hsend ready alive rfl
  rw [inbox] at hinbox
  rw [entered] at hentered
  exact ⟨b, h, ready, h1, h0, b', hstep, hsent, hinbox, hentered⟩

end Clearance.Pool
