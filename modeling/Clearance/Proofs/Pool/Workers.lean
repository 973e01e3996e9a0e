import Clearance.Pool.Basic
import Clearance.Proofs.Worker.Move

/-!
# The workers of a pool

The workers of a pool share nothing but the session that they are told.  What a worker has come to
depends on the events that happened to it, and on no others.  So what holds of a new worker after
every run holds of each worker of a pool.

## Main definitions

* `Pool.workerAt`: the worker with a number, as good as new if it was not acquired yet
* `Pool.eventsAt`: what happened to a worker, among all that happened in a pool

## Main results

* `Pool.invariant_run`: what every step keeps, every run keeps
* `Pool.workerAt_run`: a worker runs through its own events
* `Pool.run_worker`: a worker of a pool that began empty is a new one after its own events
* `Pool.size_le_capacity`: a pool never has more workers than places
-/

namespace Clearance.Pool

variable {service : Service} {p p' : Pool} {e : Event} {es : List Event} {i j : Nat}
  {w : Worker}

/-- A new pool has a place at least, and no workers. -/
theorem eq_of_ofCapacity {capacity : Nat} {session : WorkerSession}
    (h : ofCapacity capacity session = .ok p) :
    0 < capacity ∧ p = ⟨capacity, session, [], 0, []⟩ := by
  unfold ofCapacity at h
  split at h
  · cases h
  · next hpos => exact ⟨Nat.pos_of_ne_zero hpos, (Except.ok.inj h).symm⟩

/-- The worker with a number.  One that was not acquired yet is as good as new. -/
def workerAt (p : Pool) (j : Nat) : Worker := p.workers[j]?.getD (.spawn j p.session)

/-- What happened to a worker, among all that happened in a pool. -/
def eventsAt (j : Nat) (es : List Event) : List Worker.Event :=
  es.filterMap fun
    | .acquire => none
    | .worker i f => if i = j then some f else none

theorem workerAt_eq (h : p.workers[j]? = some w) : p.workerAt j = w := by
  rw [workerAt, h, Option.getD_some]

theorem eventsAt_append (j : Nat) (es es' : List Event) :
    eventsAt j (es ++ es') = eventsAt j es ++ eventsAt j es' :=
  List.filterMap_append

/-- An acquisition changes no worker: the one that it adds is new. -/
theorem workerAt_acquire (p : Pool) (j : Nat) : p.acquire.2.workerAt j = p.workerAt j := by
  rw [acquire]
  split
  · simp only [workerAt, size, List.getElem?_append, List.getElem?_singleton]
    split
    · rfl
    · next hj =>
      rw [List.getElem?_eq_none (by omega), Option.getD_none]
      split
      · next h0 =>
        obtain rfl : j = p.workers.length := by omega
        rfl
      · rfl
  · rfl

/-- Whoever acquires a worker gets one that is there. -/
theorem exists_acquired (h : 0 < p.capacity) : ∃ w, p.acquire.2.workers[p.acquire.1]? = some w := by
  rw [acquire]
  split
  · exact ⟨_, List.getElem?_concat_length⟩
  · next full =>
    have hlt : p.cursor.toNat % p.size < p.workers.length :=
      Nat.mod_lt _ (Nat.lt_of_lt_of_le h (Nat.not_lt.mp full))
    exact ⟨_, List.getElem?_eq_getElem hlt⟩

theorem size_acquire_le (p : Pool) : p.size ≤ p.acquire.2.size := by
  rw [acquire]
  split
  · simp [size]
  · exact Nat.le_refl _

/-- What an event changes: it adds a worker at most, or it is an event of one worker. -/
theorem step_cases (h : p.step service e = some p') :
    (e = .acquire ∧ p' = p.acquire.2) ∨
      ∃ i f w w', e = .worker i f ∧ p.workers[i]? = some w ∧ w.step service f = some w' ∧
        p' = { p with workers := p.workers.set i w' } := by
  cases e with
  | acquire => exact .inl ⟨rfl, (Option.some.inj h).symm⟩
  | worker i f =>
    obtain ⟨w, hw, h⟩ := Option.bind_eq_some_iff.mp h
    obtain ⟨w', hw', h⟩ := Option.bind_eq_some_iff.mp h
    exact .inr ⟨i, f, w, w', rfl, hw, hw', (Option.some.inj h).symm⟩

/-- An event of a worker can happen in the pool if it can happen to the worker. -/
theorem isSome_step_worker {f : Worker.Event} (hw : p.workers[i]? = some w)
    (h : (w.step service f).isSome) : (p.step service (.worker i f)).isSome := by
  obtain ⟨w', hw'⟩ := Option.isSome_iff_exists.mp h
  simp [step, hw, hw']

theorem size_step_le (h : p.step service e = some p') : p.size ≤ p'.size := by
  obtain ⟨-, rfl⟩ | ⟨i, f, w, w', -, -, -, rfl⟩ := step_cases h
  · exact size_acquire_le p
  · simp [size]

/-- What every step keeps, every run keeps. -/
theorem invariant_run {P : Pool → Prop}
    (hstep : ∀ {q e q'}, P q → q.step service e = some q' → P q')
    (h : p.run service es = some p') (hp : P p) : P p' := by
  induction es generalizing p with
  | nil =>
    obtain rfl := Option.some.inj h
    exact hp
  | cons e es ih =>
    obtain ⟨q, hq, hr⟩ := Option.bind_eq_some_iff.mp h
    exact ih hr (hstep hp hq)

theorem size_run_le (h : p.run service es = some p') : p.size ≤ p'.size :=
  invariant_run (P := fun q => p.size ≤ q.size)
    (fun hq hs => Nat.le_trans hq (size_step_le hs)) h (Nat.le_refl _)

theorem capacity_acquire (p : Pool) : p.acquire.2.capacity = p.capacity := by
  rw [acquire]
  split <;> rfl

theorem size_acquire_le_capacity (h : p.size ≤ p.capacity) : p.acquire.2.size ≤ p.capacity := by
  rw [acquire]
  split
  · next room =>
    simp only [size, List.length_append, List.length_singleton]
    exact room
  · exact h

/-- A pool that is within its capacity stays so, and keeps the capacity. -/
theorem size_step_le_capacity (h : p.step service e = some p') (hs : p.size ≤ p.capacity) :
    p'.capacity = p.capacity ∧ p'.size ≤ p.capacity := by
  obtain ⟨-, rfl⟩ | ⟨i, f, w, w', -, -, -, rfl⟩ := step_cases h
  · exact ⟨capacity_acquire p, size_acquire_le_capacity hs⟩
  · refine ⟨rfl, ?_⟩
    simpa [size] using hs

theorem size_run_le_capacity (h : p.run service es = some p') (hs : p.size ≤ p.capacity) :
    p'.size ≤ p.capacity := by
  have hwithin : p'.capacity = p.capacity ∧ p'.size ≤ p'.capacity := by
    refine invariant_run (P := fun q => q.capacity = p.capacity ∧ q.size ≤ q.capacity) ?_ h
      ⟨rfl, hs⟩
    intro q e q' hq hstep
    obtain ⟨hcap, hsize⟩ := size_step_le_capacity hstep hq.2
    exact ⟨hcap.trans hq.1, hcap ▸ hsize⟩
  exact hwithin.1 ▸ hwithin.2

/-- **A pool never has more workers than places.** -/
theorem size_le_capacity {capacity : Nat} {session : WorkerSession} {p₀ : Pool}
    (h₀ : ofCapacity capacity session = .ok p₀) (h : p₀.run service es = some p) :
    p.size ≤ capacity := by
  obtain ⟨-, rfl⟩ := eq_of_ofCapacity h₀
  exact size_run_le_capacity h (Nat.zero_le _)

theorem workerAt_step (h : p.step service e = some p') (j : Nat) :
    (p.workerAt j).run service (eventsAt j [e]) = some (p'.workerAt j) := by
  obtain ⟨rfl, rfl⟩ | ⟨i, f, w, w', rfl, hw, hw', rfl⟩ := step_cases h
  · rw [workerAt_acquire]
    rfl
  · have hi : i < p.workers.length := (List.getElem?_eq_some_iff.mp hw).1
    by_cases hij : i = j
    · subst hij
      rw [workerAt_eq hw, workerAt, List.getElem?_set_self hi, Option.getD_some]
      simp [eventsAt, Worker.run, hw']
    · rw [workerAt, workerAt, List.getElem?_set_ne hij]
      simp [eventsAt, Worker.run, hij]

/-- **A worker runs through its own events.** -/
theorem workerAt_run (h : p.run service es = some p') (j : Nat) :
    (p.workerAt j).run service (eventsAt j es) = some (p'.workerAt j) := by
  induction es generalizing p with
  | nil =>
    obtain rfl := Option.some.inj h
    rfl
  | cons e es ih =>
    obtain ⟨q, hq, hr⟩ := Option.bind_eq_some_iff.mp h
    rw [← List.singleton_append, eventsAt_append, Worker.run_append, workerAt_step hq j]
    exact ih hr

/-- In a pool that begins empty every worker is as good as new. -/
theorem workerAt_ofCapacity {capacity : Nat} {session : WorkerSession}
    (h : ofCapacity capacity session = .ok p) (j : Nat) : p.workerAt j = .spawn j session := by
  obtain ⟨-, rfl⟩ := eq_of_ofCapacity h
  rfl

/-- **A worker of a pool that began empty is a new one after its own events.** -/
theorem run_worker {capacity : Nat} {session : WorkerSession} {p₀ : Pool}
    (h₀ : ofCapacity capacity session = .ok p₀) (h : p₀.run service es = some p)
    (hw : p.workers[j]? = some w) :
    (Worker.spawn j session).run service (eventsAt j es) = some w := by
  rw [← workerAt_ofCapacity h₀, workerAt_run h j, workerAt_eq hw]

/-- A worker stays in its pool, and runs through its own events. -/
theorem exists_worker_run (h : p.run service es = some p') (hw : p.workers[j]? = some w) :
    ∃ w', p'.workers[j]? = some w' ∧ w.run service (eventsAt j es) = some w' := by
  have hj : j < p'.workers.length :=
    Nat.lt_of_lt_of_le (List.getElem?_eq_some_iff.mp hw).1 (size_run_le h)
  refine ⟨p'.workers[j], List.getElem?_eq_getElem hj, ?_⟩
  rw [← workerAt_eq hw, workerAt_run h j, workerAt_eq (List.getElem?_eq_getElem hj)]

end Clearance.Pool
