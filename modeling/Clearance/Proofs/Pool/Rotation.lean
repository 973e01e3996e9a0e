import Mathlib.Data.Int.CardIntervalMod
import Clearance.Proofs.Pool.Workers
import Clearance.Proofs.Worker.Death

/-!
# Workers take turns

A pool grows by one worker at each acquisition until it is full, and goes round its workers from
then on.  Both are one rule: acquisition number `n` is that of worker `n` modulo the capacity.  When
the pool has just become full, the cursor is at zero and so is that remainder, and from there on
both go on in step.  The cursor has 64 bits, so this holds for the first `2 ^ 64` acquisitions of a
full pool.

Only acquisitions count.  What is submitted to a worker, who gives up, and whether the task of a
worker has died make no difference, and a worker stays at its place.

## Main definitions

* `Pool.Rotating`: a pool after some number of acquisitions

## Main results

* `Pool.Rotating.fst_acquire`: whose turn is next
* `Pool.Rotating.step`, `Pool.rotating_run`: what an event makes of that, and a run
* `Pool.count_turns`: how often a worker had its turn
* `Pool.acquired_in_turn`: all of it
-/

namespace Clearance.Pool

variable {service : Service} {session : WorkerSession} {p₀ p p' : Pool} {e : Event}
  {es : List Event} {capacity n i j : Nat}

/-! ## Turns -/

/-- The workers that have their turns, in order. -/
def turns (capacity n : Nat) : List Nat := (List.range n).map fun k => k % capacity

theorem turns_succ (capacity n : Nat) :
    turns capacity (n + 1) = turns capacity n ++ [n % capacity] := by
  simp [turns, List.range_succ]

/-- **How often a worker had its turn**: once in each full round, and once more if the round that
has begun has come past it. -/
theorem count_turns (hi : i < capacity) (n : Nat) :
    (turns capacity n).count i = n / capacity + if i < n % capacity then 1 else 0 := by
  have hpos : 0 < capacity := Nat.zero_lt_of_lt hi
  have hcount : (turns capacity n).count i = n.count fun k => k ≡ i [MOD capacity] := by
    rw [turns, List.count, List.countP_map, Nat.count]
    refine List.countP_congr fun k _ => ?_
    simp [Nat.ModEq, Nat.mod_eq_of_lt hi]
  rw [hcount, Nat.count_modEq_card n hpos, Nat.mod_eq_of_lt hi]

/-- No worker has had two turns more than another one. -/
theorem count_turns_le (hi : i < capacity) (hj : j < capacity) (n : Nat) :
    (turns capacity n).count i ≤ (turns capacity n).count j + 1 := by
  rw [count_turns hi, count_turns hj]
  split <;> split <;> omega

/-! ## Acquisitions -/

/-- A pool after some number of acquisitions: how large it is, where its cursor stands, and who had
a turn.  The last holds as long as the cursor has not come round. -/
structure Rotating (capacity n : Nat) (p : Pool) : Prop where
  places : p.capacity = capacity
  size : p.size = min n capacity
  cursor : p.cursor = UInt64.ofNat (n - capacity)
  acquired : n ≤ capacity + 2 ^ 64 → p.acquired = turns capacity n

theorem rotating_ofCapacity (h : ofCapacity capacity session = .ok p) : p.Rotating capacity 0 := by
  obtain ⟨-, rfl⟩ := eq_of_ofCapacity h
  exact ⟨rfl, (Nat.zero_min capacity).symm, by rw [Nat.zero_sub]; rfl, fun _ => rfl⟩

/-- A pool keeps a list of the workers that were acquired. -/
theorem acquired_acquire (p : Pool) : p.acquire.2.acquired = p.acquired ++ [p.acquire.1] := by
  unfold acquire
  split <;> rfl

/-- A pool with a place left grows by one worker. -/
theorem size_acquire (p : Pool) :
    p.acquire.2.size = if p.size < p.capacity then p.size + 1 else p.size := by
  unfold acquire
  split
  · simp [size]
  · rfl

/-- The cursor goes on when there is no place left. -/
theorem cursor_acquire (p : Pool) :
    p.acquire.2.cursor = if p.size < p.capacity then p.cursor else p.cursor + 1 := by
  unfold acquire
  split <;> rfl

namespace Rotating

/-- **Whose turn is next.**  While there is a place, it is that of the new worker, and then that of
the worker at the cursor. -/
theorem fst_acquire (h : p.Rotating capacity n) (hn : n < capacity + 2 ^ 64) :
    p.acquire.1 = n % capacity := by
  have hsize := h.size
  unfold acquire
  by_cases hroom : n < capacity
  · rw [if_pos (by rw [hsize, h.places]; omega), hsize, Nat.min_eq_left (Nat.le_of_lt hroom),
      Nat.mod_eq_of_lt hroom]
  · have hfull : p.size = capacity := by omega
    have hcursor : p.cursor.toNat = n - capacity := by
      rw [h.cursor]
      exact UInt64.toNat_ofNat_of_lt (by rw [UInt64.size]; omega)
    rw [if_neg (by rw [hfull, h.places]; omega)]
    show p.cursor.toNat % p.size = n % capacity
    -- one round less has the same remainder
    rw [hcursor, hfull, Nat.mod_eq_sub_mod (Nat.not_lt.mp hroom)]

theorem acquire (h : p.Rotating capacity n) : p.acquire.2.Rotating capacity (n + 1) := by
  have hsize := h.size
  refine ⟨(capacity_acquire p).trans h.places, ?_, ?_, ?_⟩
  · rw [size_acquire, h.places]
    split <;> omega
  · rw [cursor_acquire, h.places]
    split
    · next hroom =>
      -- there was a place, so the cursor still stands at the start
      rw [h.cursor, Nat.sub_eq_zero_of_le (by omega), Nat.sub_eq_zero_of_le (by omega)]
    · next hfull =>
      have hnext : n + 1 - capacity = n - capacity + 1 := by omega
      rw [h.cursor, hnext, UInt64.ofNat_add]
      rfl
  · intro hn
    rw [acquired_acquire, h.fst_acquire hn, h.acquired (Nat.le_of_lt hn), turns_succ]

/-- **Only acquisitions make a difference.** -/
theorem step (h : p.Rotating capacity n) (hs : p.step service e = some p') :
    p'.Rotating capacity (n + [e].count .acquire) := by
  obtain ⟨rfl, rfl⟩ | ⟨i, f, w, w', rfl, -, -, rfl⟩ := step_cases hs
  · exact h.acquire
  · -- the event of a worker replaces it at its place
    have hnone : [Event.worker i f].count .acquire = 0 := rfl
    rw [hnone]
    refine ⟨h.places, ?_, h.cursor, h.acquired⟩
    rw [Nat.add_zero, ← h.size]
    exact List.length_set

theorem run (h : p.Rotating capacity n) (hr : p.run service es = some p') :
    p'.Rotating capacity (n + es.count .acquire) := by
  induction es generalizing p n with
  | nil =>
    obtain rfl := Option.some.inj hr
    exact h
  | cons e es ih =>
    obtain ⟨q, hq, hr⟩ := Option.bind_eq_some_iff.mp hr
    rw [← List.singleton_append, List.count_append, ← Nat.add_assoc]
    exact ih (h.step hq) hr

end Rotating

/-- **After a run a pool stands where its acquisitions have brought it.** -/
theorem rotating_run (h₀ : ofCapacity capacity session = .ok p₀)
    (h : p₀.run service es = some p) : p.Rotating capacity (es.count .acquire) := by
  have hrun := (rotating_ofCapacity h₀).run h
  rwa [Nat.zero_add] at hrun

/-- A worker has the number of its place. -/
theorem index_workerAt (h₀ : ofCapacity capacity session = .ok p₀)
    (h : p₀.run service es = some p) (i : Nat) : (p.workerAt i).index = i := by
  have hrun := workerAt_run h i
  rw [workerAt_ofCapacity h₀] at hrun
  exact Worker.index_run hrun

/-- **Workers take turns.**  A pool with a place at least can be made.  Take it at any moment of any
run, after `n` acquisitions.

* It has `n` workers, or as many as places.
* Worker `n` modulo the capacity is acquired next.  Whoever acquires a worker gets the one at that
  place, which has that number, and the pool keeps a list of them.
* So far the workers had their turns in order, none of them more than once more than another.
* The worker at a place has its number, and stays there, whatever happens later. -/
theorem acquired_in_turn (service : Service) (session : WorkerSession) (hpos : 0 < capacity) :
    ∃ p₀ : Pool, ofCapacity capacity session = .ok p₀ ∧
      ∀ (es : List Event) (p : Pool) (n : Nat), p₀.run service es = some p →
        es.count .acquire = n → n ≤ capacity + 2 ^ 64 →
        (p.size = min n capacity ∧ p.acquire.2.size = min (n + 1) capacity) ∧
        ((n < capacity + 2 ^ 64 → p.acquire.1 = n % capacity) ∧
          (∃ w : Worker, p.acquire.2.workers[p.acquire.1]? = some w ∧ w.index = p.acquire.1) ∧
          p.acquire.2.acquired = p.acquired ++ [p.acquire.1]) ∧
        (p.acquired = turns capacity n ∧
          ∀ i j, i < capacity → j < capacity →
            p.acquired.count i ≤ p.acquired.count j + 1) ∧
        ∀ (i : Nat) (w : Worker), p.workers[i]? = some w → w.index = i ∧
          ∀ (later : List Event) (p' : Pool), p.run service later = some p' →
            ∃ w' : Worker, p'.workers[i]? = some w' ∧
              w.run service (eventsAt i later) = some w' ∧ w'.index = i := by
  have h₀ : ofCapacity capacity session = .ok { capacity, session } :=
    if_neg (Nat.ne_of_gt hpos)
  refine ⟨_, h₀, ?_⟩
  rintro es p n h rfl hn
  have hturn : p.Rotating capacity (es.count .acquire) := rotating_run h₀ h
  have hacquired := hturn.acquired hn
  refine ⟨⟨hturn.size, hturn.acquire.size⟩, ⟨hturn.fst_acquire, ?_, acquired_acquire p⟩,
    ⟨hacquired, fun i j hi hj => ?_⟩, fun i w hw => ?_⟩
  · have hplace : 0 < p.capacity := by rwa [hturn.places]
    obtain ⟨w, hw⟩ := exists_acquired hplace
    refine ⟨w, hw, ?_⟩
    rw [← workerAt_eq hw, workerAt_acquire, index_workerAt h₀ h]
  · rw [hacquired]
    exact count_turns_le hi hj _
  · have hindex : w.index = i := by rw [← workerAt_eq hw, index_workerAt h₀ h]
    refine ⟨hindex, fun later p' hlater => ?_⟩
    obtain ⟨w', hw', hr⟩ := exists_worker_run hlater hw
    exact ⟨w', hw', hr, (Worker.index_run hr).trans hindex⟩

/-- Three workers take turns.  Before the second turn of worker 0 its caller gives up, and after it
its task dies. -/
def secondRound : List Event :=
  [.acquire, .worker 0 (.submit [1]), .worker 0 .take, .worker 0 .route, .acquire,
    .worker 0 (.poll 0), .worker 0 .take, .acquire, .worker 0 (.abandon 0), .acquire,
    .worker 0 .die, .acquire]

theorem acquired_in_turn_of_secondRound :
    ∃ p₀ p, ofCapacity 3 ⟨{}, ⟨"", "r"⟩⟩ = .ok p₀ ∧
      p₀.run (fun _ => .ok "text") secondRound = some p ∧
      p.acquired = [0, 1, 2, 0, 1] ∧ p.size = 3 ∧ p.acquire.1 = 2 ∧
      p.acquired.count 0 ≤ p.acquired.count 2 + 1 ∧
      ∃ w, p.workers[0]? = some w ∧ w.alive = false ∧ w.index = 0 := by
  obtain ⟨p₀, h₀, hturns⟩ :=
    acquired_in_turn (fun _ => .ok "text") ⟨{}, ⟨"", "r"⟩⟩ (show 0 < 3 by decide)
  obtain rfl := Except.ok.inj h₀
  obtain ⟨p, w, h, hw, hdead⟩ :
      ∃ p w, Pool.run (fun _ => .ok "text") { capacity := 3, session := ⟨{}, ⟨"", "r"⟩⟩ }
          secondRound = some p ∧ p.workers[0]? = some w ∧ w.alive = false :=
    ⟨_, _, rfl, rfl, rfl⟩
  obtain ⟨⟨hsize, -⟩, ⟨hnext, -, -⟩, ⟨hacquired, hfair⟩, hplaces⟩ := hturns _ p 5 h rfl (by decide)
  exact ⟨_, p, rfl, h, hacquired, hsize, hnext (by decide), hfair 0 2 (by decide) (by decide),
    w, hw, hdead, (hplaces 0 w hw).1⟩

end Clearance.Pool
