import Clearance.Proofs.Worker.Progress

/-!
# When the task of a worker dies

A task that dies leaves replies that the router has not yet handed on, callers whose requests it
will not answer, and callers still to come.  What each caller gets is settled at that moment: its
reply if it was posted, and otherwise that the worker is gone.

There is one exception.  The task lets go of its outbox first and of its inbox after that, so that
the router may end in between, and a caller may then still send.  No one is left to take back its
registration: such a caller is *stranded*, and waits until it gives up.  All others come to their
end, since each step leaves less to do, and there is a step as long as one of them waits.

## Main definitions

* `Worker.fate`: what a caller gets from a dead worker
* `Worker.forsaken`: the stranded callers that have not given up
* `Worker.Concluded`: how the callers of a dead worker come out in the end

## Main results

* `Worker.Sound.mem_stranded_run`: who is stranded
* `Worker.Sound.result_eq_fate`: callers that have a result have what they should get
* `Worker.Sound.poll_of_closed`, `Worker.Sound.poll_of_shut`: whoever is not stranded goes on
* `Worker.Sound.poll_of_stranded`, `Worker.Sound.stranded_run`: whoever is stranded does not
* `Worker.Sound.concluded`, `Worker.Sound.exists_run`: everyone else comes to an end
-/

namespace Clearance.Worker

variable {service : Service} {session : WorkerSession} {w w' : Worker} {e : Event}
  {es : List Event} {t : Nat} {c : List UInt8}

/-- What a caller gets from a dead worker: its reply if it was posted, and otherwise that the
worker is gone. -/
def fate (service : Service) (session : WorkerSession) (w : Worker) (t : Nat) (c : List UInt8) :
    Except PoolFault Outcome :=
  if t ∈ w.journal.posted then .ok (decryptOne service (some session) c) else w.gone

/-! ## Results of callers -/

/-- What was handed to a caller had been posted. -/
theorem Sound.posted_of_delivered (h : w.Sound service session)
    (hd : t ∈ w.delivered.map Prod.fst) : t ∈ w.journal.posted := by
  obtain ⟨⟨u, o⟩, hu, rfl⟩ := List.mem_map.mp hd
  exact (h.faithful.delivered u o hu).2

/-- A router that has ended has handed every reply to its caller, unless the caller gave up. -/
theorem Sound.delivered_of_posted (h : w.Sound service session) (hr : w.routing = false)
    (hw : w.phase? t ≠ some .withdrawn) (hp : t ∈ w.journal.posted) :
    t ∈ w.delivered.map Prod.fst := by
  obtain ⟨o, ho⟩ | hd | hw' := h.settled.accounted t hp
  · rw [(h.registered.closed hr).2] at ho
    cases ho
  · exact hd
  · exact absurd hw' hw

/-- No posted reply is lost: a caller that is told of none has none. -/
theorem Sound.not_mem_posted_of_error (h : w.Sound service session) {f : PoolFault}
    (ht : w.phase? t = some (.done (.error f))) : t ∉ w.journal.posted := by
  intro hp
  have hun := h.settled.done_error t f ht
  have hr := hun.closed_of_entered (h.inLine.entered_of_posted hp)
  refine hun.undelivered (h.delivered_of_posted hr ?_ hp)
  rw [ht]
  nofun

/-- **A caller that has a result has what it should get.** -/
theorem Sound.result_eq_fate (h : w.Sound service session) (hc : w.ciphertext? t = some c)
    {r : Except PoolFault Outcome} (ht : w.phase? t = some (.done r)) :
    r = w.fate service session t c := by
  cases r with
  | ok o =>
    obtain ⟨ha, hp⟩ := h.faithful.delivered t o (h.settled.done_ok t o ht)
    rw [answer, hc, Option.map_some] at ha
    rw [fate, if_pos hp, Option.some.inj ha]
  | error f =>
    rw [fate, if_neg (h.not_mem_posted_of_error ht), (h.settled.done_error t f ht).eq, gone]

/-- **When the inbox is closed, whoever has not sent goes on**, to what it should get. -/
theorem Sound.poll_of_shut (h : w.Sound service session) (hs : w.accepting = false)
    (ht : w.phase? t = some .waiting) :
    w.poll t = some (w.setPhase t (.done (w.fate service session t c))) := by
  have hdead := (h.inLine.shut hs).1
  obtain ⟨d, hd⟩ := phase?_eq_some_iff.mp ht
  have hn : t ∉ w.journal.posted := fun hp =>
    h.known.not_mem_entered ht (h.inLine.entered_of_posted hp)
  rw [poll_eq_of_waiting hd (h.told.ready_of_dead hdead) hs, fate, if_neg hn]

/-- **When the router has ended, whoever has sent and is not stranded goes on**, to what it should
get. -/
theorem Sound.poll_of_closed (h : w.Sound service session) (hr : w.routing = false)
    (ht : w.phase? t = some .sent) (hn : t ∉ w.journal.stranded)
    (hc : w.ciphertext? t = some c) :
    w.poll t = some (w.setPhase t (.done (w.fate service session t c))) := by
  -- by then the task is dead, and all its replies have been taken
  obtain ⟨d, hd⟩ := phase?_eq_some_iff.mp ht
  have hpending : t ∉ w.pending := by simp [h.registered.mem_pending_iff, hr, hn]
  rw [poll_eq_of_sent hd hpending, fate]
  cases hl : w.delivered.lookup t with
  | none =>
    have hp : t ∉ w.journal.posted := fun hp =>
      not_mem_keys_of_lookup hl (h.delivered_of_posted hr (by rw [ht]; nofun) hp)
    rw [if_neg hp, Option.map_none, Option.getD_none]
  | some o =>
    obtain ⟨ha, hp⟩ := h.faithful.delivered t o (mem_of_lookup hl)
    rw [answer, hc, Option.map_some] at ha
    rw [if_pos hp, Option.map_some, Option.getD_some, Option.some.inj ha]

/-! ## Stranded callers -/

/-- A stranded caller waits for its reply, unless it has given up. -/
theorem Sound.phase?_of_stranded (h : w.Sound service session) (ht : t ∈ w.journal.stranded) :
    w.phase? t = some .sent ∨ w.phase? t = some .withdrawn := by
  obtain ⟨p, hp, hne⟩ := h.known.known t (h.stranding.sublist.subset ht)
  cases p with
  | waiting => exact absurd rfl hne
  | sent => exact .inl hp
  | withdrawn => exact .inr hp
  | done r =>
    cases r with
    | ok o =>
      have hd := List.mem_map_of_mem (f := Prod.fst) (h.settled.done_ok t o hp)
      exact absurd (h.posted_of_delivered hd) (h.stranding.unposted t ht)
    | error f => exact absurd ht (h.settled.done_error t f hp).not_stranded

theorem Sound.undelivered_of_stranded (h : w.Sound service session)
    (ht : t ∈ w.journal.stranded) : t ∉ w.delivered.map Prod.fst := fun hd =>
  h.stranding.unposted t ht (h.posted_of_delivered hd)

/-- **A stranded caller does not go on.** -/
theorem Sound.poll_of_stranded (h : w.Sound service session) (ht : t ∈ w.journal.stranded) :
    w.poll t = none := by
  have hd := h.undelivered_of_stranded ht
  rcases h.phase?_of_stranded ht with hp | hp
  · have hpending : t ∈ w.pending := (h.registered.mem_pending_iff t).mpr ⟨hp, hd, .inr ht⟩
    obtain ⟨c, hs⟩ := phase?_eq_some_iff.mp hp
    cases hl : w.delivered.lookup t with
    | none => simp [poll, hs, hl, hpending]
    | some o => exact absurd (List.mem_map_of_mem (mem_of_lookup hl)) hd
  · obtain ⟨c, hs⟩ := phase?_eq_some_iff.mp hp
    simp [poll, hs]

/-- The stranded callers that have not given up. -/
def forsaken (w : Worker) : List Nat :=
  w.journal.stranded.filter fun t => ¬(w.phase? t).any Phase.isWithdrawn

/-- **When the router has ended, those are registered.** -/
theorem Sound.pending_perm_of_closed (h : w.Sound service session) (hr : w.routing = false) :
    w.pending.Perm w.forsaken := by
  have hnodup : w.journal.stranded.Nodup := h.known.nodup.sublist h.stranding.sublist
  refine (List.perm_ext_iff_of_nodup h.registered.nodup_pending (hnodup.filter _)).mpr fun t => ?_
  rw [h.registered.mem_pending_iff, List.mem_filter, decide_eq_true_eq, hr]
  constructor
  · rintro ⟨hp, -, hs⟩
    exact ⟨hs.resolve_left nofun, by simp [hp, Phase.isWithdrawn]⟩
  · rintro ⟨hs, hw⟩
    rcases h.phase?_of_stranded hs with hp | hp
    · exact ⟨hp, h.undelivered_of_stranded hs, .inr hs⟩
    · simp [hp, Phase.isWithdrawn] at hw

/-- Who gets stranded in a step: whoever sends when the router has ended. -/
theorem Sound.mem_stranded_move (h : w.Sound service session) (hm : Move service w e w') :
    t ∈ w'.journal.stranded ↔ t ∈ w.journal.stranded ∨
      e = .poll t ∧ w.phase? t = some .waiting ∧ w.routing = false ∧ w.accepting = true := by
  cases hm with
  | @send u c waiting ready accepting =>
    have hu : w.phase? u = some .waiting := phase?_eq_some_iff.mpr ⟨c, waiting⟩
    rw [Journal.mem_stranded_enter]
    refine or_congr_right ⟨?_, ?_⟩
    · rintro ⟨rfl, hr⟩
      exact ⟨rfl, hu, hr, accepting⟩
    · rintro ⟨he, -, hr, -⟩
      exact ⟨(Event.poll.inj he).symm, hr⟩
  | @refuse u waiting closed =>
    -- it is refused because the inbox is closed, since a worker whose router has ended is ready
    refine ⟨.inl, fun hs => hs.resolve_right ?_⟩
    rintro ⟨-, -, hr, accepting⟩
    rcases closed with hs | ⟨hready, -⟩
    · cases accepting.symm.trans hs
    · exact hready (h.told.ready_of_dead (h.registered.closed hr).1)
  | @receive u o sent | @lose u sent =>
    refine ⟨.inl, fun hs => hs.resolve_right ?_⟩
    rintro ⟨he, hp, -⟩
    obtain rfl := Event.poll.inj he
    cases hp.symm.trans sent
  | _ => exact ⟨.inl, fun hs => hs.resolve_right (by simp)⟩

/-- **Those are stranded that sent after the end of the router, and before that of the inbox.** -/
theorem Sound.mem_stranded_run (h : w.Sound service session) (hrun : w.run service es = some w') :
    t ∈ w'.journal.stranded ↔ t ∈ w.journal.stranded ∨ ∃ before after v,
      es = before ++ .poll t :: after ∧ w.run service before = some v ∧
        v.phase? t = some .waiting ∧ v.routing = false ∧ v.accepting = true := by
  induction es generalizing w with
  | nil =>
    obtain rfl := Option.some.inj hrun
    simp
  | cons e es ih =>
    obtain ⟨u, hu, hr⟩ := Option.bind_eq_some_iff.mp hrun
    have hm : Move service w e u := .of_step hu
    rw [ih (h.move hm) hr, h.mem_stranded_move hm, or_assoc]
    refine or_congr_right ⟨?_, ?_⟩
    · rintro (⟨rfl, hs⟩ | ⟨before, after, v, rfl, hv, hs⟩)
      · exact ⟨[], es, w, rfl, rfl, hs⟩
      · exact ⟨e :: before, after, v, rfl, by rw [run_cons, hu]; exact hv, hs⟩
    · rintro ⟨before, after, v, hes, hv, hs⟩
      cases before with
      | nil =>
        obtain ⟨rfl, -⟩ := List.cons.inj hes
        obtain rfl := Option.some.inj hv
        exact .inl ⟨rfl, hs⟩
      | cons f before =>
        obtain ⟨rfl, rfl⟩ := List.cons.inj hes
        rw [run_cons, hu] at hv
        exact .inr ⟨before, after, v, rfl, hv, hs⟩

/-- **A stranded caller waits until it gives up.** -/
theorem Sound.stranded_run (h : w.Sound service session) (hrun : w.run service es = some w')
    (ht : t ∈ w.journal.stranded) (hp : w.phase? t = some .sent) (hes : .abandon t ∉ es) :
    t ∈ w'.journal.stranded ∧ w'.phase? t = some .sent := by
  induction es generalizing w with
  | nil =>
    obtain rfl := Option.some.inj hrun
    exact ⟨ht, hp⟩
  | cons e es ih =>
    obtain ⟨v, hv, hr⟩ := Option.bind_eq_some_iff.mp hrun
    rw [List.mem_cons, not_or] at hes
    have hm : Move service w e v := .of_step hv
    have hs : t ∈ v.journal.stranded := (h.mem_stranded_move hm).mpr (.inl ht)
    have hstayed : v.phase? t ≠ some .withdrawn :=
      hm.stayed (Ne.symm hes.1) (by rw [hp]; nofun)
    have hsent : v.phase? t = some .sent :=
      ((h.move hm).phase?_of_stranded hs).resolve_right hstayed
    exact ih (h.move hm) hr hs hsent hes.2

/-! ## All others come to an end -/

/-- Neither does a caller come, nor does one give up. -/
def Event.goesOn : Event → Bool
  | .submit _ | .abandon _ => false
  | .tell _ | .poll _ | .take | .finish | .die | .shut | .route | .close => true

/-- How the callers of a dead worker come out in the end: they have what they should get, or have
given up, but for those that are stranded.  Router and inbox have come to their ends. -/
structure Concluded (service : Service) (session : WorkerSession) (w : Worker) : Prop where
  closed : w.routing = false
  shut : w.accepting = false
  callers : ∀ t c, w.ciphertext? t = some c →
    w.phase? t = some .withdrawn ∨
    t ∉ w.journal.stranded ∧ w.phase? t = some (.done (w.fate service session t c)) ∨
    t ∈ w.journal.stranded ∧ w.phase? t = some .sent
  inFlight_eq : w.inFlight = w.forsaken.length

/-- **A dead worker that can go no further has brought all its callers to an end**, but for those
that are stranded. -/
theorem Sound.concluded (h : w.Sound service session) (hdead : w.alive = false)
    (hrest : ∀ e, e.goesOn = true → w.step service e = none) : w.Concluded service session := by
  have hclosed : w.routing = false := by
    refine Bool.of_not_eq_true fun hr => ?_
    -- a router that goes on has a reply to hand on, or can end
    cases ho : w.outbox with
    | nil => simpa [step, close, hr, hdead, ho] using hrest .close rfl
    | cons posting rest =>
      have hroute := hrest .route rfl
      cases posting with
      | ready => simp [step, route, hr, ho] at hroute
      | result t o => by_cases hp : t ∈ w.pending <;> simp [step, route, hr, ho, hp] at hroute
  have hshut : w.accepting = false := by
    refine Bool.of_not_eq_true fun hs => ?_
    simpa [step, Worker.shut, hs, hdead] using hrest .shut rfl
  refine ⟨hclosed, hshut, fun t c hc => ?_, ?_⟩
  · obtain ⟨q, hq⟩ := exists_phase? hc
    have hpoll : w.poll t = none := hrest (.poll t) rfl
    cases q with
    | withdrawn => exact .inl hq
    | waiting =>
      rw [h.poll_of_shut (c := c) hshut hq] at hpoll
      cases hpoll
    | done r =>
      refine .inr (.inl ⟨fun hs => ?_, h.result_eq_fate hc hq ▸ hq⟩)
      rcases h.phase?_of_stranded hs with hp | hp <;> cases hq.symm.trans hp
    | sent =>
      refine .inr (.inr ⟨Classical.byContradiction fun hs => ?_, hq⟩)
      rw [h.poll_of_closed hclosed hq hs hc] at hpoll
      cases hpoll
  · exact (h.pending_perm_of_closed hclosed).length_eq

/-- A dead worker stays dead and posts nothing. -/
theorem Sound.dead_move (h : w.Sound service session) (hdead : w.alive = false)
    (hm : Move service w e w') :
    w'.alive = false ∧ w'.journal.posted = w.journal.posted := by
  cases hm with
  | start alive | settle alive | ask alive => cases hdead.symm.trans alive
  | finish busy | die busy => cases hdead.symm.trans (h.inLine.alive_of_busy busy)
  | _ => exact ⟨hdead, rfl⟩

theorem Sound.dead_run (h : w.Sound service session) (hdead : w.alive = false)
    (hrun : w.run service es = some w') :
    w'.alive = false ∧ w'.journal.posted = w.journal.posted := by
  have hall : w'.Sound service session ∧ w'.alive = false ∧
      w'.journal.posted = w.journal.posted := by
    refine invariant_run (P := fun v => v.Sound service session ∧ v.alive = false ∧
      v.journal.posted = w.journal.posted) (fun hv hm => ?_) hrun ⟨h, hdead, rfl⟩
    obtain ⟨hs, ha, hp⟩ := hv
    obtain ⟨ha', hp'⟩ := hs.dead_move ha hm
    exact ⟨hs.move hm, ha', hp'.trans hp⟩
  exact hall.2

/-- **A dead worker can go on until all its callers have come to an end.** -/
theorem Sound.exists_run (h : w.Sound service session) (hdead : w.alive = false) :
    ∃ es w', (∀ e ∈ es, e.goesOn = true) ∧ w.run service es = some w' ∧
      w'.Concluded service session := by
  -- by induction on what is left to do, since the next step is not known beforehand
  induction hn : w.unsettled using Nat.strongRecOn generalizing w with
  | ind n ih =>
    by_cases hrest : ∀ e, e.goesOn = true → w.step service e = none
    · exact ⟨[], w, nofun, rfl, h.concluded hdead hrest⟩
    · obtain ⟨e, he, hstep⟩ : ∃ e, e.goesOn = true ∧ w.step service e ≠ none := by
        simpa using hrest
      obtain ⟨v, hv⟩ := Option.ne_none_iff_exists'.mp hstep
      have hm : Move service w e v := .of_step hv
      have hnew : submitted [e] = [] := by
        cases e with
        | submit => cases he
        | _ => rfl
      have hless := h.unsettled_move hm
      rw [hnew, List.length_nil] at hless
      obtain ⟨es, w', hes, hrun, hend⟩ :=
        ih v.unsettled (by omega) (h.move hm) (h.dead_move hdead hm).1 rfl
      refine ⟨e :: es, w', fun f hf => ?_, ?_, hend⟩
      · rcases List.mem_cons.mp hf with rfl | hf
        · exact he
        · exact hes f hf
      · rw [run_cons, hv]
        exact hrun

end Clearance.Worker
