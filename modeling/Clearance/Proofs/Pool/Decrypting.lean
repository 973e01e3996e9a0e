import Mathlib.Data.List.Forall2
import Clearance.Pool.Decrypting
import Clearance.Proofs.Pool.Workers
import Clearance.Proofs.Worker.Progress

/-!
# A pool decrypts as a plain map does

Workers come one by one, requests queue behind each other, and replies come back in whatever order
services answer.  None of this shows in the results: as long as no task dies, every call comes to
an end, with the answer to its own ciphertext, whatever the capacity of the pool and however the
steps of calls and workers fall.

Each step leaves less to do, and as long as some call waits there is a step.  So no call waits for
ever, whoever is held up and for how long.

## Main definitions

* `Pool.Serving`: a pool whose workers all serve
* `Decrypting.Move`: the ways in which an event can turn out
* `Decrypting.Underway`: the invariant, which says where the request of each call lies
* `Decrypting.work`: how many steps are left

## Main results

* `Decrypting.Underway.move`, `Decrypting.Underway.work_move`: every step but the death of a task
  keeps the invariant and leaves less to do
* `Decrypting.Underway.exists_step`: as long as a call waits, there is a step
* `Decrypting.results_eq_map`: the results are those of a plain map
-/

namespace Clearance

/-! ## Pools that serve -/

namespace Pool

variable {service : Service} {session : WorkerSession} {p p' : Pool} {e : Event} {i : Nat}
  {f : Worker.Event}

/-- A pool with a place at least, whose workers serve one session. -/
structure Serving (service : Service) (session : WorkerSession) (p : Pool) : Prop where
  capacity_pos : 0 < p.capacity
  session_eq : p.session = session
  workers : ∀ w ∈ p.workers, w.Serving service session

theorem serving_ofCapacity {capacity : Nat} (h : ofCapacity capacity session = .ok p) :
    p.Serving service session := by
  obtain ⟨hpos, rfl⟩ := eq_of_ofCapacity h
  exact ⟨hpos, rfl, nofun⟩

/-- A worker that is acquired is new, or was there. -/
theorem mem_workers_acquire {w : Worker} (h : w ∈ p.acquire.2.workers) :
    w ∈ p.workers ∨ w = .spawn p.size p.session := by
  rw [acquire] at h
  split at h
  · simpa using h
  · exact .inl h

theorem Serving.acquire (h : p.Serving service session) :
    p.acquire.2.Serving service session where
  capacity_pos := by
    rw [capacity_acquire]
    exact h.capacity_pos
  session_eq := by
    rw [Pool.acquire]
    split <;> exact h.session_eq
  workers w hw := by
    rcases mem_workers_acquire hw with hw | rfl
    · exact h.workers w hw
    · rw [h.session_eq]
      exact Worker.serving_spawn service p.size session

/-- **A pool goes on serving unless a task dies or a caller gives up.** -/
theorem Serving.worker (h : p.Serving service session)
    (hstep : p.step service (.worker i f) = some p') (hf : f.isSteady = true) :
    p'.Serving service session := by
  obtain ⟨he, -⟩ | ⟨j, g, w, w', he, hw, hw', rfl⟩ := step_cases hstep
  · cases he
  · obtain ⟨rfl, rfl⟩ := Event.worker.inj he
    refine ⟨h.capacity_pos, h.session_eq, fun v hv => ?_⟩
    rcases List.mem_or_eq_of_mem_set hv with hv | rfl
    · exact h.workers v hv
    · exact (h.workers w (List.mem_of_getElem? hw)).move (.of_step hw') hf

/-- Requests stay with the workers to which they were put. -/
theorem exists_worker_of_step (h : p.step service e = some p') {w : Worker}
    (hw : p.workers[i]? = some w) :
    ∃ w', p'.workers[i]? = some w' ∧
      ∀ t c, w.ciphertext? t = some c → w'.ciphertext? t = some c := by
  have hrun : p.run service [e] = some p' := by
    rw [run, h]
    rfl
  obtain ⟨w', hw', hwrun⟩ := exists_worker_run hrun hw
  refine ⟨w', hw', ?_⟩
  exact Worker.invariant_run
    (P := fun v => ∀ t c, w.ciphertext? t = some c → v.ciphertext? t = some c)
    (fun hv hm t c hc => hm.ciphertext?_eq (hv t c hc)) hwrun fun _ _ hc => hc

/-- How many steps are left for the workers of a pool. -/
def work (p : Pool) : Nat := (p.workers.map Worker.work).sum

/-- A new worker has its session to read and to say so. -/
theorem work_acquire_le (p : Pool) : p.acquire.2.work ≤ p.work + 2 := by
  rw [acquire]
  split
  · simp [work, Worker.work_spawn]
  · exact Nat.le_add_right _ _

/-- **Every step of a worker leaves less to do in its pool, but for the coming of a caller.** -/
theorem Serving.work_worker (h : p.Serving service session)
    (hstep : p.step service (.worker i f) = some p') (hf : f.isSteady = true) :
    p'.work + 1 ≤ p.work + 6 * (Worker.submitted [f]).length := by
  obtain ⟨he, -⟩ | ⟨j, g, w, w', he, hw, hw', rfl⟩ := step_cases hstep
  · cases he
  · obtain ⟨rfl, rfl⟩ := Event.worker.inj he
    have hless := (h.workers w (List.mem_of_getElem? hw)).work_move (.of_step hw') hf
    have hsum := sum_map_set Worker.work hw w'
    simp only [work]
    omega

end Pool

/-! ## The moves of calls -/

namespace Decrypting

variable {service : Service} {session : WorkerSession} {d d' : Decrypting} {e : Event}
  {es : List Event} {ciphertexts : List (List UInt8)} {c : List UInt8}

/-- The ways in which an event can turn out. -/
inductive Move (service : Service) (d : Decrypting) : Event → Decrypting → Prop where
  /-- A call acquires a worker. -/
  | acquire {i : Nat} {c : List UInt8} (call : d.calls[i]? = some ⟨c, .begun⟩) :
    Move service d (.acquire i)
      ⟨d.pool.acquire.2, d.calls.set i ⟨c, .acquired d.pool.acquire.1⟩⟩
  /-- A call puts its request to its worker. -/
  | submit {i k : Nat} {c : List UInt8} {w : Worker} {pool : Pool}
    (call : d.calls[i]? = some ⟨c, .acquired k⟩) (worker : d.pool.workers[k]? = some w)
    (step : d.pool.step service (.worker k (.submit c)) = some pool) :
    Move service d (.submit i) ⟨pool, d.calls.set i ⟨c, .submitted k w.submissions.length⟩⟩
  /-- A call that waits goes on. -/
  | poll {i k t : Nat} {c : List UInt8} {pool : Pool}
    (call : d.calls[i]? = some ⟨c, .submitted k t⟩)
    (step : d.pool.step service (.worker k (.poll t)) = some pool) :
    Move service d (.poll i) ⟨pool, d.calls⟩
  /-- A worker goes on by itself. -/
  | inner {k : Nat} {f : Worker.Event} {pool : Pool} (inner : f.isInner = true)
    (step : d.pool.step service (.worker k f) = some pool) :
    Move service d (.worker k f) ⟨pool, d.calls⟩

/-- **What an event changes is one of its moves.** -/
theorem Move.of_step (h : d.step service e = some d') : Move service d e d' := by
  cases e with
  | acquire i =>
    simp only [step] at h
    split at h
    · next call =>
      obtain rfl := Option.some.inj h
      exact .acquire call
    · cases h
  | submit i =>
    simp only [step] at h
    split at h
    · next call =>
      obtain ⟨w, hw, h⟩ := Option.bind_eq_some_iff.mp h
      obtain ⟨pool, hpool, h⟩ := Option.bind_eq_some_iff.mp h
      obtain rfl := Option.some.inj h
      exact .submit call hw hpool
    · cases h
  | poll i =>
    simp only [step] at h
    split at h
    · next call =>
      obtain ⟨pool, hpool, h⟩ := Option.bind_eq_some_iff.mp h
      obtain rfl := Option.some.inj h
      exact .poll call hpool
    · cases h
  | worker k f =>
    simp only [step] at h
    split at h
    · next inner =>
      obtain ⟨pool, hpool, h⟩ := Option.bind_eq_some_iff.mp h
      obtain rfl := Option.some.inj h
      exact .inner inner hpool
    · cases h

/-! ## The invariant -/

/-- Where the request of a call lies: with the caller, or with a worker that is there. -/
def Call.Placed (call : Call) (p : Pool) : Prop :=
  match call.stage with
  | .begun => True
  | .acquired k => ∃ w, p.workers[k]? = some w
  | .submitted k t => ∃ w, p.workers[k]? = some w ∧ w.ciphertext? t = some call.ciphertext

/-- A pool that serves, and the calls for some ciphertexts. -/
structure Underway (service : Service) (session : WorkerSession) (ciphertexts : List (List UInt8))
    (d : Decrypting) : Prop where
  pool : d.pool.Serving service session
  ciphertexts : d.calls.map (·.ciphertext) = ciphertexts
  placed : ∀ call ∈ d.calls, call.Placed d.pool

theorem underway_start {capacity : Nat} {p : Pool}
    (h : Pool.ofCapacity capacity session = .ok p) :
    (start p ciphertexts).Underway service session ciphertexts where
  pool := Pool.serving_ofCapacity h
  ciphertexts := by
    rw [start, List.map_map]
    exact List.map_id _
  placed call hcall := by
    obtain ⟨c, -, rfl⟩ := List.mem_map.mp hcall
    trivial

/-- A request stays where it lies. -/
theorem Call.Placed.step {call : Call} {p p' : Pool} {f : Pool.Event} (h : call.Placed p)
    (hstep : p.step service f = some p') : call.Placed p' := by
  unfold Call.Placed at h ⊢
  split at h
  · trivial
  · obtain ⟨w, hw⟩ := h
    obtain ⟨w', hw', -⟩ := Pool.exists_worker_of_step hstep hw
    exact ⟨w', hw'⟩
  · obtain ⟨w, hw, hc⟩ := h
    obtain ⟨w', hw', hkept⟩ := Pool.exists_worker_of_step hstep hw
    exact ⟨w', hw', hkept _ _ hc⟩

/-- **Every step but the death of a task keeps the invariant.** -/
theorem Underway.move (h : d.Underway service session ciphertexts) (hm : Move service d e d')
    (he : ∀ k, e ≠ .worker k .die) : d'.Underway service session ciphertexts := by
  cases hm with
  | @acquire i c call =>
    refine ⟨h.pool.acquire, Eq.trans (map_set_of_eq call rfl) h.ciphertexts, fun other ho => ?_⟩
    rcases List.mem_or_eq_of_mem_set ho with ho | rfl
    · have hacquire : d.pool.step service .acquire = some d.pool.acquire.2 := rfl
      exact (h.placed other ho).step hacquire
    · exact Pool.exists_acquired h.pool.capacity_pos
  | @submit i k c w pool call worker step =>
    refine ⟨h.pool.worker step rfl, Eq.trans (map_set_of_eq call rfl) h.ciphertexts,
      fun other ho => ?_⟩
    rcases List.mem_or_eq_of_mem_set ho with ho | rfl
    · exact (h.placed other ho).step step
    · obtain ⟨hbad, -⟩ | ⟨j, f, v, v', hevent, hv, hv', rfl⟩ := Pool.step_cases step
      · cases hbad
      · obtain ⟨rfl, rfl⟩ := Pool.Event.worker.inj hevent
        obtain rfl := Option.some.inj (worker.symm.trans hv)
        obtain rfl := Option.some.inj hv'
        have hlt : k < d.pool.workers.length := (List.getElem?_eq_some_iff.mp worker).1
        exact ⟨_, List.getElem?_set_self hlt, by simp [Worker.ciphertext?]⟩
  | poll call step =>
    exact ⟨h.pool.worker step rfl, h.ciphertexts, fun other ho => (h.placed other ho).step step⟩
  | @inner k f pool inner step =>
    have hsteady : f.isSteady = true :=
      Worker.Event.isSteady_of_isInner inner (by rintro rfl; exact he k rfl)
    exact ⟨h.pool.worker step hsteady, h.ciphertexts,
      fun other ho => (h.placed other ho).step step⟩

/-- **Every call that has a result has the answer to its own ciphertext.** -/
theorem Underway.result_eq (h : d.Underway service session ciphertexts) {call : Call}
    (hcall : call ∈ d.calls) {r : Except PoolFault Outcome}
    (hr : call.result? d.pool = some r) :
    r = .ok (decryptOne service (some session) call.ciphertext) := by
  have hplaced := h.placed call hcall
  unfold Call.Placed at hplaced
  unfold Call.result? at hr
  split at hr
  · next k t stage =>
    rw [stage] at hplaced
    obtain ⟨w, hw, hc⟩ := hplaced
    split at hr
    · next result hphase =>
      obtain rfl := Option.some.inj hr
      rw [hw, Option.bind_some] at hphase
      exact (h.pool.workers w (List.mem_of_getElem? hw)).result_eq hc hphase
    · cases hr
  · cases hr

/-! ## Every call comes to an end -/

/-- How many steps are left for a call before its request lies with a worker: to acquire one, which
may be new and have two steps to take, to put the request to it, and the steps from then on. -/
def Call.work (call : Call) : Nat :=
  match call.stage with
  | .begun => 9
  | .acquired _ => 6
  | .submitted _ _ => 0

/-- How many steps are left at most. -/
def work (d : Decrypting) : Nat := d.pool.work + (d.calls.map Call.work).sum

theorem work_start {capacity : Nat} {p : Pool} (h : Pool.ofCapacity capacity session = .ok p)
    (ciphertexts : List (List UInt8)) : (start p ciphertexts).work = 9 * ciphertexts.length := by
  obtain ⟨-, rfl⟩ := Pool.eq_of_ofCapacity h
  have hcalls : (ciphertexts.map fun c => ({ ciphertext := c } : Call)).map Call.work =
      List.replicate ciphertexts.length 9 := by
    rw [List.map_map]
    exact List.map_const'
  simp only [work, start, Pool.work, hcalls, List.map_nil, List.sum_nil, List.sum_replicate_nat]
  omega

/-- **Every step but the death of a task leaves less to do.** -/
theorem Underway.work_move (h : d.Underway service session ciphertexts)
    (hm : Move service d e d') (he : ∀ k, e ≠ .worker k .die) : d'.work + 1 ≤ d.work := by
  cases hm with
  | @acquire i c call =>
    -- of nine steps six are left to the call, and two to its worker if that is new
    have hcalls : ((d.calls.set i ⟨c, .acquired d.pool.acquire.1⟩).map Call.work).sum + 9 =
        (d.calls.map Call.work).sum + 6 := sum_map_set Call.work call _
    have hpool := Pool.work_acquire_le d.pool
    simp only [work]
    omega
  | @submit i k c w pool call worker step =>
    -- the five steps that are left count as those of the worker from here on
    have hcalls : ((d.calls.set i ⟨c, .submitted k w.submissions.length⟩).map Call.work).sum + 6 =
        (d.calls.map Call.work).sum + 0 := sum_map_set Call.work call _
    have hpool : pool.work + 1 ≤ d.pool.work + 6 := h.pool.work_worker step rfl
    simp only [work]
    omega
  | @poll i k t c pool call step =>
    have hpool : pool.work + 1 ≤ d.pool.work := h.pool.work_worker step rfl
    simp only [work]
    omega
  | @inner k f pool inner step =>
    have hsteady : f.isSteady = true :=
      Worker.Event.isSteady_of_isInner inner (by rintro rfl; exact he k rfl)
    have hnew : Worker.submitted [f] = [] := by
      cases f with
      | submit => cases inner
      | _ => rfl
    have hpool := h.pool.work_worker step hsteady
    rw [hnew, List.length_nil] at hpool
    simp only [work]
    omega

/-- A call that waits is at one of its stations; the last is with its worker. -/
theorem Underway.isSome_step (h : d.Underway service session ciphertexts) {i : Nat} {call : Call}
    (hcall : d.calls[i]? = some call) (hwaits : call.result? d.pool = none) :
    ∃ e, (∀ k, e ≠ .worker k .die) ∧ (d.step service e).isSome = true := by
  have hplaced := h.placed call (List.mem_of_getElem? hcall)
  obtain ⟨c, stage⟩ := call
  cases stage with
  | begun => exact ⟨.acquire i, by simp, by simp [step, hcall]⟩
  | acquired k =>
    obtain ⟨w, hw⟩ := hplaced
    exact ⟨.submit i, by simp, by simp [step, hcall, hw, Pool.step, Worker.step]⟩
  | submitted k t =>
    obtain ⟨w, hw, hc⟩ := hplaced
    have hserving := h.pool.workers w (List.mem_of_getElem? hw)
    obtain ⟨q, hq⟩ := Worker.exists_phase? hc
    -- its caller has not given up, and would have a result if it had come to its end
    have isOpen : q.isOpen = true := by
      cases q with
      | waiting | sent => rfl
      | withdrawn => exact absurd hq (hserving.stayed t)
      | done r => simp [Call.result?, hw, hq] at hwaits
    obtain ⟨f, hf, hsome⟩ := hserving.exists_step hq isOpen
    obtain ⟨pool, hpool⟩ := Option.isSome_iff_exists.mp (Pool.isSome_step_worker hw hsome)
    obtain ⟨hinner, hdie⟩ | rfl := hf
    · refine ⟨.worker k f, fun j he => hdie (Event.worker.inj he).2, ?_⟩
      simp [step, hinner, hpool]
    · exact ⟨.poll i, by simp, by simp [step, hcall, hpool]⟩

/-- **As long as a call waits, there is a step** other than the death of a task. -/
theorem Underway.exists_step (h : d.Underway service session ciphertexts)
    (hwaits : none ∈ d.results) :
    ∃ e d', (∀ k, e ≠ .worker k .die) ∧ d.step service e = some d' := by
  obtain ⟨call, hcall, hnone⟩ := List.mem_map.mp hwaits
  obtain ⟨i, hi⟩ := List.getElem?_of_mem hcall
  obtain ⟨e, he, hsome⟩ := h.isSome_step hi hnone
  obtain ⟨d', hd'⟩ := Option.isSome_iff_exists.mp hsome
  exact ⟨e, d', he, hd'⟩

/-- What a plain map makes of some ciphertexts. -/
def answers (service : Service) (session : WorkerSession) (ciphertexts : List (List UInt8)) :
    List (Except PoolFault Outcome) :=
  ciphertexts.map fun c => .ok (decryptOne service (some session) c)

/-- Place by place, a result is not there yet, or it is that of a plain map. -/
theorem Underway.results_agree (h : d.Underway service session ciphertexts) :
    List.Forall₂ (fun result answer => result = none ∨ result = some answer) d.results
      (answers service session ciphertexts) := by
  rw [results, answers, ← h.ciphertexts, List.map_map, List.forall₂_map_left_iff,
    List.forall₂_map_right_iff, List.forall₂_same]
  intro call hcall
  cases hr : call.result? d.pool with
  | none => exact .inl rfl
  | some r => exact .inr (congrArg some (h.result_eq hcall hr))

/-- When no call waits, the results are those of a plain map. -/
theorem Underway.results_eq (h : d.Underway service session ciphertexts)
    (hdone : none ∉ d.results) : d.results = (answers service session ciphertexts).map some := by
  rw [results, answers, ← h.ciphertexts, List.map_map, List.map_map]
  refine List.map_congr_left fun call hcall => ?_
  cases hr : call.result? d.pool with
  | none => exact absurd (List.mem_map.mpr ⟨call, hcall, hr⟩) hdone
  | some r => rw [h.result_eq hcall hr]; rfl

/-! ## Runs -/

/-- **A run without deaths keeps the invariant**, and is no longer than what there was to do. -/
theorem Underway.run (h : d.Underway service session ciphertexts)
    (hrun : d.run service es = some d') (hes : ∀ k, .worker k .die ∉ es) :
    d'.Underway service session ciphertexts ∧ es.length + d'.work ≤ d.work := by
  induction es generalizing d with
  | nil =>
    obtain rfl := Option.some.inj hrun
    exact ⟨h, by simp⟩
  | cons e es ih =>
    obtain ⟨v, hv, hrest⟩ := Option.bind_eq_some_iff.mp hrun
    have he : ∀ k, e ≠ .worker k .die := fun k hk => hes k (hk ▸ List.mem_cons_self)
    have hm : Move service d e v := .of_step hv
    obtain ⟨h', hlength⟩ :=
      ih (h.move hm he) hrest fun k hk => hes k (List.mem_cons_of_mem _ hk)
    have hless := h.work_move hm he
    refine ⟨h', ?_⟩
    rw [List.length_cons]
    omega

/-- **Every run goes on to an end**: as long as a call waits it takes a step, which leaves less to
do. -/
theorem Underway.exists_run (h : d.Underway service session ciphertexts) :
    ∃ es d', (∀ k, .worker k .die ∉ es) ∧ d.run service es = some d' ∧
      d'.results = (answers service session ciphertexts).map some := by
  -- by induction on what is left to do, since the next step is not known beforehand
  induction hn : d.work using Nat.strongRecOn generalizing d with
  | ind n ih =>
    by_cases hwaits : none ∈ d.results
    · obtain ⟨e, v, he, hv⟩ := h.exists_step hwaits
      have hm : Move service d e v := .of_step hv
      have hless := h.work_move hm he
      obtain ⟨es, d', hes, hrun, hresults⟩ := ih v.work (by omega) (h.move hm he) rfl
      refine ⟨e :: es, d', fun k hk => ?_, ?_, hresults⟩
      · rcases List.mem_cons.mp hk with hk | hk
        · exact he k hk.symm
        · exact hes k hk
      · rw [Decrypting.run, hv]
        exact hrun
    · exact ⟨[], d, fun _ => List.not_mem_nil, rfl, h.results_eq hwaits⟩

/-- A result that is there is the answer to its ciphertext. -/
theorem Underway.result_eq_of_getElem? (h : d.Underway service session ciphertexts) {i : Nat}
    {r : Except PoolFault Outcome} (hc : ciphertexts[i]? = some c)
    (hr : d.results[i]? = some (some r)) : r = .ok (decryptOne service (some session) c) := by
  rw [results, List.getElem?_map] at hr
  obtain ⟨call, hcall, hr⟩ := Option.map_eq_some_iff.mp hr
  rw [← h.ciphertexts, List.getElem?_map, hcall] at hc
  obtain rfl := Option.some.inj hc
  exact h.result_eq (List.mem_of_getElem? hcall) hr

/-- **The results do not depend on the pool or on the order of steps.**  Take a session, a pool with
a place at least, any ciphertexts, and any run in which no task dies, however the steps of callers,
tasks, routers and of the service fall.

The run has at most nine steps for each ciphertext.  Each result that is there is the answer to its
own ciphertext.  A run that can go no further has all results, and they are those of a plain map;
and every run goes on to such an end.  In a run of another pool with the same session, of any
capacity, with other ciphertexts and with another service, a ciphertext gets the same result as long
as the two services agree on the call for this one, whether they answer or fail, and whatever they
do to the others. -/
theorem results_eq_map (service : Service) (session : WorkerSession) {capacity : Nat}
    (hcapacity : 1 ≤ capacity) (ciphertexts : List (List UInt8)) :
    ∃ p, Pool.ofCapacity capacity session = .ok p ∧
      ∀ es d, (start p ciphertexts).run service es = some d → (∀ k, .worker k .die ∉ es) →
        es.length ≤ 9 * ciphertexts.length ∧
        List.Forall₂ (fun result answer => result = none ∨ result = some answer) d.results
          (answers service session ciphertexts) ∧
        ((∀ e, (∀ k, e ≠ .worker k .die) → d.step service e = none) →
          d.results = (answers service session ciphertexts).map some) ∧
        (∃ later d', (∀ k, .worker k .die ∉ later) ∧ d.run service later = some d' ∧
          d'.results = (answers service session ciphertexts).map some) ∧
        ∀ service' capacity' p' ciphertexts' es' d',
          Pool.ofCapacity capacity' session = .ok p' →
          (start p' ciphertexts').run service' es' = some d' → (∀ k, .worker k .die ∉ es') →
          ∀ (i j : Nat) c r r', ciphertexts[i]? = some c → ciphertexts'[j]? = some c →
            (∀ call, prepare (some session) c = .ok call → service' call = service call) →
            d.results[i]? = some (some r) → d'.results[j]? = some (some r') → r' = r := by
  obtain ⟨p, hsome⟩ : ∃ p, Pool.ofCapacity capacity session = .ok p :=
    ⟨_, if_neg (Nat.one_le_iff_ne_zero.mp hcapacity)⟩
  refine ⟨p, hsome, fun es d hrun hes => ?_⟩
  obtain ⟨hunder, hlength⟩ := (underway_start hsome).run hrun hes
  rw [work_start hsome] at hlength
  refine ⟨by omega, hunder.results_agree, fun hstuck => ?_, hunder.exists_run, ?_⟩
  · refine hunder.results_eq fun hwaits => ?_
    obtain ⟨e, d', he, hd'⟩ := hunder.exists_step hwaits
    rw [hstuck e he] at hd'
    cases hd'
  · intro service' _ p' _ es' d' hsome' hrun' hes' i j c r r' hc hc' hagree hr hr'
    have hunder' := ((underway_start hsome').run hrun' hes').1
    rw [hunder.result_eq_of_getElem? hc hr, hunder'.result_eq_of_getElem? hc' hr']
    refine congrArg Except.ok ?_
    rw [decryptOne, decryptOne]
    cases hcall : prepare (some session) c with
    | error o => rfl
    | ok call => exact congrArg Outcome.ofAnswer (hagree call hcall)

/-- A service that cannot read the ciphertext 2. -/
def refusesTwo (call : ServiceCall) : Except ServiceFault String :=
  if call.ciphertext = [2] then .error (.malformed "two") else .ok "text"

/-- Two calls share a worker, and the second one comes first. -/
def onOneWorker : List Event :=
  [.acquire 0, .acquire 1, .submit 1, .worker 0 .take, .submit 0, .worker 0 .route, .poll 1,
    .poll 0, .worker 0 .take, .worker 0 .finish, .worker 0 .take, .worker 0 .route, .poll 1,
    .worker 0 .finish, .worker 0 .route, .poll 0]

/-- Two calls have a worker each, and the second one waits for its reply. -/
def onTwoWorkers : List Event :=
  [.acquire 0, .acquire 1, .submit 0, .submit 1, .worker 1 .take, .worker 0 .take,
    .worker 0 .route, .poll 0, .worker 1 .route, .poll 1, .worker 1 .take, .worker 0 .take,
    .worker 0 .finish, .worker 0 .route, .poll 0]

theorem results_eq_map_of_two :
    ∃ p d p' d', Pool.ofCapacity 1 ⟨{}, ⟨"", "r"⟩⟩ = .ok p ∧
      (start p [[1], [2]]).run refusesTwo onOneWorker = some d ∧
      Pool.ofCapacity 2 ⟨{}, ⟨"", "r"⟩⟩ = .ok p' ∧
      (start p' [[1], [3]]).run (fun _ => .ok "text") onTwoWorkers = some d' ∧
      d.results = (answers refusesTwo ⟨{}, ⟨"", "r"⟩⟩ [[1], [2]]).map some ∧
      d.results = [some (.ok { payload := some "text" }),
        some (.ok { error := some "malformed container: two" })] ∧
      d'.results = [some (.ok { payload := some "text" }), none] ∧
      ∀ r r', d.results[0]? = some (some r) → d'.results[0]? = some (some r') → r' = r := by
  obtain ⟨p, hp, hall⟩ :=
    results_eq_map refusesTwo ⟨{}, ⟨"", "r"⟩⟩ (Nat.le_refl 1) [[1], [2]]
  obtain ⟨p', hp', -⟩ :=
    results_eq_map (fun _ => .ok "text") ⟨{}, ⟨"", "r"⟩⟩ (Nat.le_add_left 1 1) [[1], [3]]
  obtain rfl := Except.ok.inj hp
  obtain rfl := Except.ok.inj hp'
  have hone : ((start ⟨1, ⟨{}, ⟨"", "r"⟩⟩, [], 0, []⟩ [[1], [2]]).run refusesTwo onOneWorker).map
      results = some [some (.ok { payload := some "text" }),
        some (.ok { error := some "malformed container: two" })] := by decide +kernel
  have htwo : ((start ⟨2, ⟨{}, ⟨"", "r"⟩⟩, [], 0, []⟩ [[1], [3]]).run (fun _ => .ok "text")
      onTwoWorkers).map results = some [some (.ok { payload := some "text" }), none] := by
    decide +kernel
  obtain ⟨d, hd, hresults⟩ := Option.map_eq_some_iff.mp hone
  obtain ⟨d', hd', hresults'⟩ := Option.map_eq_some_iff.mp htwo
  obtain ⟨-, -, -, -, hsame⟩ := hall onOneWorker d hd fun k => by simp [onOneWorker]
  refine ⟨_, d, _, d', hp, hd, hp', hd', ?_, hresults, hresults', fun r r' => ?_⟩
  · rw [hresults]
    decide +kernel
  · refine hsame _ 2 _ _ onTwoWorkers d' hp' hd' (fun k => by simp [onTwoWorkers]) 0 0 [1] r r'
      rfl rfl fun call hcall => ?_
    have hprepare : prepare (some ⟨{}, ⟨"", "r"⟩⟩) [1] =
        .ok ⟨.classify [1], [1], ⟨{}, ⟨"", "r"⟩⟩⟩ := rfl
    obtain rfl := Except.ok.inj (hprepare.symm.trans hcall)
    rfl

end Decrypting
end Clearance
