import Clearance.Proofs.Worker.Sound

/-!
# Each reply reaches its own caller

Callers, task and router of a worker share the register of those who wait.  However their steps
fall, and whoever gives up in between, a reply is handed to the caller that asked for it, once, or
dropped.  The register holds exactly the requests that are still to be answered.

## Main definitions

* `Worker.outstanding`: the requests that were neither answered nor withdrawn

## Main results

* `Worker.Sound.pending_perm`: those are the ones registered, as long as the router goes on
* `Worker.routing_run`: which it does unless the task dies
* `Worker.no_cross_talk`: all that a caller can rely on, over every run
-/

namespace Clearance.Worker

variable {service : Service} {session : WorkerSession} {w w' : Worker} {e : Event}
  {es : List Event} {t : Nat}

/-- The requests that were sent and have neither been answered by the router nor withdrawn. -/
def outstanding (w : Worker) : List Nat :=
  w.journal.entered.filter fun t =>
    t ∉ w.delivered.map Prod.fst ∧ ¬(w.phase? t).any Phase.isWithdrawn

/-- **As long as the router goes on, those are registered whose requests are outstanding.** -/
theorem Sound.pending_perm (h : w.Sound service session) (hr : w.routing = true) :
    w.pending.Perm w.outstanding := by
  refine (List.perm_ext_iff_of_nodup h.registered.nodup_pending (h.known.nodup.filter _)).mpr
    fun t => ?_
  rw [h.registered.mem_pending_iff, List.mem_filter, decide_eq_true_eq]
  constructor
  · rintro ⟨hs, hd, -⟩
    exact ⟨h.known.entered_of_sent t hs, hd, by simp [hs, Phase.isWithdrawn]⟩
  · rintro ⟨hin, hd, hw⟩
    refine ⟨?_, hd, .inl hr⟩
    obtain ⟨p, hp, hne⟩ := h.known.known t hin
    cases p with
    | waiting => exact absurd rfl hne
    | sent => exact hp
    | withdrawn => simp [hp, Phase.isWithdrawn] at hw
    | done r =>
      cases r with
      | ok o => exact absurd (List.mem_map_of_mem (h.settled.done_ok t o hp)) hd
      | error f =>
        have hc := (h.settled.done_error t f hp).closed_of_entered hin
        rw [hr] at hc
        cases hc

/-- Without a caller that waits no one is registered. -/
theorem Sound.pending_eq_nil (h : w.Sound service session)
    (hopen : ∀ t p, w.phase? t = some p → p.isOpen = false) : w.pending = [] := by
  refine List.eq_nil_iff_forall_not_mem.mpr fun t ht => ?_
  have hs := ((h.registered.mem_pending_iff t).mp ht).1
  cases hopen t .sent hs

/-- A reply to a caller that gave up is dropped, and nothing else changes. -/
theorem Sound.route_withdrawn (h : w.Sound service session) {o : Outcome} {rest : List Posting}
    (ho : w.outbox = .result t o :: rest) (hw : w.phase? t = some .withdrawn) :
    w.step service .route = some { w with outbox := rest } := by
  have hr : w.routing = true := h.registered.routing_of_outbox ho
  have hp : t ∉ w.pending := fun hp => by
    have hs := ((h.registered.mem_pending_iff t).mp hp).1
    cases Option.some.inj (hs.symm.trans hw)
  simp [step, route, hr, ho, hp]

/-- What was handed to a caller is the answer to its own request. -/
theorem Sound.delivered_own (h : w.Sound service session) {o : Outcome}
    (hd : (t, o) ∈ w.delivered) :
    t ∈ w.journal.entered ∧
      ∃ c, w.ciphertext? t = some c ∧ o = decryptOne service (some session) c := by
  obtain ⟨ha, hp⟩ := h.faithful.delivered t o hd
  refine ⟨h.inLine.entered_of_posted hp, ?_⟩
  obtain ⟨c, hc, rfl⟩ := Option.map_eq_some_iff.mp ha
  exact ⟨c, hc, rfl⟩

/-! ## The router goes on -/

theorem Move.alive_eq (hm : Move service w e w') (he : e ≠ .die) : w'.alive = w.alive := by
  cases hm with
  | die => exact absurd rfl he
  | _ => rfl

/-- The task goes on unless it dies. -/
theorem alive_run (h : w.run service es = some w') (hd : .die ∉ es) : w'.alive = w.alive := by
  induction es generalizing w with
  | nil => rw [Option.some.inj h]
  | cons e es ih =>
    obtain ⟨v, hv, hr⟩ := Option.bind_eq_some_iff.mp h
    rw [List.mem_cons, not_or] at hd
    rw [ih hr hd.2, (Move.of_step hv).alive_eq (Ne.symm hd.1)]

/-- The router goes on unless the task dies. -/
theorem routing_run {index : Nat} (h : (spawn index session).run service es = some w)
    (hd : .die ∉ es) : w.routing = true :=
  (sound_run h).registered.routing_of_alive (alive_run h hd)

/-! ## What callers can rely on -/

/-- **Replies are not mixed up.**  After any run of a new worker, whatever its callers, task and
router did in whatever order: a caller that got a result got the answer to its own request; no
reply was handed over twice, or to a caller that had not sent the request which it answers; a
reply whose caller gave up is dropped and changes nothing for anyone else; the register counts the
requests that were sent and neither answered nor withdrawn, until the router ends, which without
the death of the task it never does; and it is empty when every caller has returned or given
up. -/
theorem no_cross_talk {index : Nat} (h : (spawn index session).run service es = some w) :
    (∀ t o, w.phase? t = some (.done (.ok o)) →
      ∃ c, (submitted es)[t]? = some c ∧ o = decryptOne service (some session) c) ∧
    (w.delivered.map Prod.fst).Nodup ∧
    (∀ t o, (t, o) ∈ w.delivered → t ∈ w.journal.entered ∧
      ∃ c, (submitted es)[t]? = some c ∧ o = decryptOne service (some session) c) ∧
    (∀ t o rest, w.outbox = .result t o :: rest → w.phase? t = some .withdrawn →
      w.step service .route = some { w with outbox := rest }) ∧
    (w.routing = true → w.inFlight = w.outstanding.length) ∧
    (.die ∉ es → w.routing = true) ∧
    ((∀ t p, w.phase? t = some p → p.isOpen = false) → w.inFlight = 0) := by
  have hs : w.Sound service session := sound_run h
  have hown : ∀ t o, (t, o) ∈ w.delivered → t ∈ w.journal.entered ∧
      ∃ c, (submitted es)[t]? = some c ∧ o = decryptOne service (some session) c := by
    intro t o hd
    rw [← ciphertext?_run rfl h t]
    exact hs.delivered_own hd
  refine ⟨fun t o ht => ?_, hs.registered.nodup_delivered, hown, ?_, fun hr => ?_,
    routing_run h, fun hopen => ?_⟩
  · exact (hown t o (hs.settled.done_ok t o ht)).2
  · intro t o rest ho hw
    exact hs.route_withdrawn ho hw
  · exact (hs.pending_perm hr).length_eq
  · rw [inFlight, hs.pending_eq_nil hopen, List.length_nil]

/-- Two callers send, and the first gives up before it is answered. -/
def firstWithdraws : List Event :=
  [.take, .route, .submit [1], .submit [2], .poll 0, .poll 1, .abandon 0, .take, .finish, .route,
    .take, .finish, .route, .poll 1]

theorem no_cross_talk_first_withdraws :
    ∃ w, (spawn 0 ⟨{}, ⟨"", "r"⟩⟩).run
        (fun call => if call.ciphertext = [1] then .ok "first" else .ok "second")
        firstWithdraws = some w ∧
      w.phase? 0 = some .withdrawn ∧
      w.phase? 1 = some (.done (.ok { payload := some "second" })) ∧
      (w.delivered.map Prod.fst).Nodup ∧ w.inFlight = w.outstanding.length := by
  obtain ⟨w, h, h₀, h₁, hr⟩ : ∃ w, (spawn 0 ⟨{}, ⟨"", "r"⟩⟩).run
        (fun call => if call.ciphertext = [1] then .ok "first" else .ok "second")
        firstWithdraws = some w ∧
      w.phase? 0 = some .withdrawn ∧
      w.phase? 1 = some (.done (.ok { payload := some "second" })) ∧ w.routing = true :=
    ⟨_, rfl, rfl, rfl, rfl⟩
  obtain ⟨-, hnodup, -, -, hin, -⟩ := no_cross_talk h
  exact ⟨w, h, h₀, h₁, hnodup, hin hr⟩

end Clearance.Worker
