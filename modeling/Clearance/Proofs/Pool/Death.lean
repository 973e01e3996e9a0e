import Clearance.Proofs.Pool.Workers
import Clearance.Proofs.Worker.Death

/-!
# The death of one worker of a pool

A pool does not replace a worker whose task has died, and it gives no caller a deadline.  So a
caller of such a worker comes to an end only if the worker itself sees to that.  It does, unless the
caller sends at the one moment at which the router has ended and the inbox is still open.

## Main results

* `Pool.death_exact`: every caller of a dead worker gets its reply or is told that the worker is
  gone, but for those that are stranded, and the other workers go on as if nothing had happened
* `Pool.exists_stranded`: a caller that waits for ever
-/

namespace Clearance.Pool

open Worker (spawn submitted)

variable {service : Service} {session : WorkerSession} {p₀ p : Pool} {es : List Event}
  {i capacity : Nat} {w : Worker}

/-- What happened to a worker is an event of its pool. -/
theorem mem_of_mem_eventsAt {f : Worker.Event} (h : f ∈ eventsAt i es) : .worker i f ∈ es := by
  obtain ⟨e, he, hf⟩ := List.mem_filterMap.mp h
  cases e with
  | acquire => cases hf
  | worker j g =>
    dsimp only at hf
    split at hf
    · next hj =>
      obtain rfl := Option.some.inj hf
      exact hj ▸ he
    · cases hf

/-- What a worker can do, its pool can do. -/
theorem run_of_worker {w' : Worker} {fs : List Worker.Event} (hw : p.workers[i]? = some w)
    (h : w.run service fs = some w') :
    ∃ p', p.run service (fs.map (Event.worker i)) = some p' ∧ p'.workers[i]? = some w' := by
  induction fs generalizing p w with
  | nil =>
    obtain rfl := Option.some.inj h
    exact ⟨p, rfl, hw⟩
  | cons f fs ih =>
    obtain ⟨v, hv, hr⟩ := Option.bind_eq_some_iff.mp h
    have hlt : i < p.workers.length := (List.getElem?_eq_some_iff.mp hw).1
    obtain ⟨p', hp', hw'⟩ :=
      ih (p := { p with workers := p.workers.set i v }) (List.getElem?_set_self hlt) hr
    refine ⟨p', ?_, hw'⟩
    have hstep : p.step service (.worker i f) = some { p with workers := p.workers.set i v } := by
      simp [step, hw, hv]
    rw [List.map_cons, run, hstep]
    exact hp'

/-- **Whom the death of a worker loses, and whom it does not.**  Take a pool at any moment at which
the task of one of its workers is dead.

* A caller of that worker that has a result has its reply if that had been posted, and otherwise the
  fault that this worker is gone; and it is not stranded.
* Those are stranded that sent their request after the router had ended, and while the inbox was
  still open, and no others.
* When the router has ended, those are registered that are stranded and have not given up.  Whoever
  else has sent has a step that ends it; and so has, when the inbox is closed, whoever has not sent.
  A caller that is stranded has none.
* If nothing can happen to the worker but that callers come and give up, then all its callers have
  come to an end, but for those that are stranded.
* It gets there: it has no more steps than six for each caller and four of its own; and the pool can
  take those that are left without anyone coming or giving up.
* Whatever happens next, the worker stays dead and posts nothing more, and a stranded caller waits
  until it gives up.
* Every worker of the pool is as its own events have made it. -/
theorem death_exact (h₀ : ofCapacity capacity session = .ok p₀)
    (h : p₀.run service es = some p) (hw : p.workers[i]? = some w) (hdead : w.alive = false) :
    (∀ t c, (submitted (eventsAt i es))[t]? = some c →
      w.ciphertext? t = some c ∧ ∀ r, w.phase? t = some (.done r) →
        t ∉ w.journal.stranded ∧
        r = if t ∈ w.journal.posted then .ok (decryptOne service (some session) c)
          else .error (.workerGone i)) ∧
    (∀ t, t ∈ w.journal.stranded ↔ ∃ before after v, eventsAt i es = before ++ .poll t :: after ∧
      (spawn i session).run service before = some v ∧ v.phase? t = some .waiting ∧
      v.routing = false ∧ v.accepting = true) ∧
    (w.routing = false → w.inFlight = w.forsaken.length) ∧
    (∀ t c, w.ciphertext? t = some c →
      (w.routing = false ∧ w.phase? t = some .sent ∧ t ∉ w.journal.stranded ∨
        w.accepting = false ∧ w.phase? t = some .waiting →
        w.step service (.poll t) =
          some (w.setPhase t (.done (w.fate service session t c)))) ∧
      (t ∈ w.journal.stranded → w.step service (.poll t) = none)) ∧
    ((∀ f, f.goesOn = true → w.step service f = none) → w.Concluded service session) ∧
    (eventsAt i es).length ≤ 4 + 6 * (submitted (eventsAt i es)).length ∧
    (∃ (fs : List Worker.Event) (p' : Pool) (w' : Worker), (∀ f ∈ fs, f.goesOn = true) ∧
      p.run service (fs.map (Event.worker i)) = some p' ∧ p'.workers[i]? = some w' ∧
      w'.Concluded service session) ∧
    (∀ later p', p.run service later = some p' → ∃ w', p'.workers[i]? = some w' ∧
      w'.alive = false ∧ w'.journal.posted = w.journal.posted ∧
      ∀ t ∈ w.journal.stranded, w.phase? t = some .sent → .worker i (.abandon t) ∉ later →
        w'.phase? t = some .sent) ∧
    ∀ j v, p.workers[j]? = some v → (spawn j session).run service (eventsAt j es) = some v := by
  have hrun : (spawn i session).run service (eventsAt i es) = some w := run_worker h₀ h hw
  have hs : w.Sound service session := Worker.sound_run hrun
  have hindex : w.index = i := Worker.index_run hrun
  refine ⟨fun t c ht => ?_, fun t => ?_, fun hr => ?_, fun t c hc => ⟨?_, hs.poll_of_stranded⟩,
    hs.concluded hdead, Worker.length_run_le hrun, ?_, fun later p' h' => ?_,
    fun j v hv => run_worker h₀ h hv⟩
  · have hc : w.ciphertext? t = some c := (Worker.ciphertext?_run rfl hrun t).trans ht
    refine ⟨hc, fun r hr => ⟨fun hst => ?_, ?_⟩⟩
    · rcases hs.phase?_of_stranded hst with hp | hp <;> cases hr.symm.trans hp
    · rw [hs.result_eq_fate hc hr, Worker.fate, Worker.gone, hindex]
  · have hnew := (Worker.sound_spawn service i session).mem_stranded_run (t := t) hrun
    exact hnew.trans (or_iff_right List.not_mem_nil)
  · exact (hs.pending_perm_of_closed hr).length_eq
  · rintro (⟨hr, hp, hst⟩ | ⟨hshut, hp⟩)
    · exact hs.poll_of_closed hr hp hst hc
    · exact hs.poll_of_shut hshut hp
  · obtain ⟨fs, w', hfs, hr, hend⟩ := hs.exists_run hdead
    obtain ⟨p', hp', hw'⟩ := run_of_worker hw hr
    exact ⟨fs, p', w', hfs, hp', hw', hend⟩
  · obtain ⟨w', hw', hr⟩ := exists_worker_run h' hw
    obtain ⟨hdead', hposted⟩ := hs.dead_run hdead hr
    exact ⟨w', hw', hdead', hposted, fun t ht hp hlater =>
      (hs.stranded_run hr ht hp (mt mem_of_mem_eventsAt hlater)).2⟩

/-- The task of worker 0 dies with its second request, when the reply to the first is still under
way.  A third caller is refused when the inbox is closed; a fourth one has sent before that, but
after the end of the router.  Worker 1 serves a caller of its own. -/
def deathOfFirst : List Event :=
  [.acquire, .worker 0 .take, .worker 0 .route, .worker 0 (.submit [1]), .worker 0 (.submit [2]),
    .worker 0 (.poll 0), .worker 0 (.poll 1), .worker 0 .take, .worker 0 .finish, .worker 0 .take,
    .acquire, .worker 0 .die, .worker 1 .take, .worker 0 (.submit [3]), .worker 1 .route,
    .worker 1 (.submit [4]), .worker 0 .route, .worker 1 (.poll 0), .worker 0 .close,
    .worker 0 (.submit [5]), .worker 0 (.poll 3), .worker 0 .shut, .worker 0 (.poll 2),
    .worker 0 (.poll 0), .worker 1 .take, .worker 1 .finish, .worker 1 .route, .worker 1 (.poll 0)]

theorem death_exact_of_four :
    ∃ p₀ p w v, ofCapacity 2 ⟨{}, ⟨"", "r"⟩⟩ = .ok p₀ ∧
      p₀.run (fun _ => .ok "text") deathOfFirst = some p ∧
      p.workers[0]? = some w ∧ w.alive = false ∧ p.workers[1]? = some v ∧
      w.phase? 0 = some (.done (.ok { payload := some "text" })) ∧
      w.step (fun _ => .ok "text") (.poll 1) =
        some (w.setPhase 1 (.done (.error (.workerGone 0)))) ∧
      w.phase? 2 = some (.done (.error (.workerGone 0))) ∧
      w.phase? 3 = some .sent ∧ w.step (fun _ => .ok "text") (.poll 3) = none ∧ w.inFlight = 1 ∧
      (spawn 1 ⟨{}, ⟨"", "r"⟩⟩).run (fun _ => .ok "text")
        [.take, .route, .submit [4], .poll 0, .take, .finish, .route, .poll 0] = some v := by
  obtain ⟨p₀, p, w, v, h₀, h, hw, hdead, hv, h0, h2, h3, hr, hsent, hposted, hindex, hstranded⟩ :
      ∃ p₀ p w v, ofCapacity 2 ⟨{}, ⟨"", "r"⟩⟩ = .ok p₀ ∧
        p₀.run (fun _ => .ok "text") deathOfFirst = some p ∧
        p.workers[0]? = some w ∧ w.alive = false ∧ p.workers[1]? = some v ∧
        w.phase? 0 = some (.done (.ok { payload := some "text" })) ∧
        w.phase? 2 = some (.done (.error (.workerGone 0))) ∧ w.phase? 3 = some .sent ∧
        w.routing = false ∧ w.phase? 1 = some .sent ∧ w.journal.posted = [0] ∧ w.index = 0 ∧
        w.journal.stranded = [3] :=
    ⟨_, _, _, _, rfl, rfl, rfl, rfl, rfl, rfl, rfl, rfl, rfl, rfl, rfl, rfl, rfl⟩
  obtain ⟨hcallers, -, hin, hpoll, -, -, -, -, hothers⟩ := death_exact h₀ h hw hdead
  have hstep := (hpoll 1 [2] (hcallers 1 [2] rfl).1).1
    (.inl ⟨hr, hsent, by rw [hstranded]; decide⟩)
  rw [Worker.fate, hposted, if_neg (by decide), Worker.gone, hindex] at hstep
  have hnever := (hpoll 3 [5] (hcallers 3 [5] rfl).1).2 (by rw [hstranded]; decide)
  have hone : w.inFlight = 1 := by
    rw [hin hr, Worker.forsaken, hstranded]
    simp [h3, Phase.isWithdrawn]
  exact ⟨p₀, p, w, v, h₀, h, hw, hdead, hv, h0, hstep, h2, h3, hnever, hone, hothers 1 v hv⟩

/-- A caller sends its request after the router of a dead worker has ended, and before the inbox is
closed. -/
def strandedCaller : List Event :=
  [.acquire, .worker 0 .take, .worker 0 .route, .worker 0 (.submit [1]), .worker 0 (.submit [2]),
    .worker 0 (.poll 0), .worker 0 .take, .worker 0 .die, .worker 0 .close, .worker 0 (.poll 1),
    .worker 0 .shut, .worker 0 (.poll 0)]

/-- **A caller may wait for ever.**  The task is dead, the router has handed on everything and has
ended, the inbox is closed; and still a caller is registered, and waits in whatever happens next,
unless it gives up itself. -/
theorem exists_stranded :
    ∃ p₀ p w, ofCapacity 1 ⟨{}, ⟨"", "r"⟩⟩ = .ok p₀ ∧
      p₀.run (fun _ => .ok "text") strandedCaller = some p ∧ p.workers[0]? = some w ∧
      w.alive = false ∧ w.routing = false ∧ w.outbox = [] ∧ w.accepting = false ∧
      w.phase? 0 = some (.done (.error (.workerGone 0))) ∧ w.phase? 1 = some .sent ∧
      w.inFlight = 1 ∧
      ∀ later p', p.run (fun _ => .ok "text") later = some p' →
        .worker 0 (.abandon 1) ∉ later →
        ∃ w', p'.workers[0]? = some w' ∧ w'.phase? 1 = some .sent := by
  obtain ⟨p₀, p, w, h₀, h, hw, hdead, hr, hout, hshut, h0, h1, hin, hstranded⟩ :
      ∃ p₀ p w, ofCapacity 1 ⟨{}, ⟨"", "r"⟩⟩ = .ok p₀ ∧
        p₀.run (fun _ => .ok "text") strandedCaller = some p ∧ p.workers[0]? = some w ∧
        w.alive = false ∧ w.routing = false ∧ w.outbox = [] ∧ w.accepting = false ∧
        w.phase? 0 = some (.done (.error (.workerGone 0))) ∧ w.phase? 1 = some .sent ∧
        w.inFlight = 1 ∧ w.journal.stranded = [1] :=
    ⟨_, _, _, rfl, rfl, rfl, rfl, rfl, rfl, rfl, rfl, rfl, rfl, rfl⟩
  refine ⟨p₀, p, w, h₀, h, hw, hdead, hr, hout, hshut, h0, h1, hin, fun later p' h' hlater => ?_⟩
  have hs : w.Sound (fun _ => .ok "text") ⟨{}, ⟨"", "r"⟩⟩ := Worker.sound_run (run_worker h₀ h hw)
  obtain ⟨w', hw', hrun⟩ := exists_worker_run h' hw
  refine ⟨w', hw', (hs.stranded_run hrun (by rw [hstranded]; decide) h1 ?_).2⟩
  exact mt mem_of_mem_eventsAt hlater

end Clearance.Pool
