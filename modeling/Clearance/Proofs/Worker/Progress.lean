import Mathlib.Data.List.Basic
import Clearance.Proofs.Lists
import Clearance.Proofs.Worker.Replies

/-!
# A worker gets through its work

Whatever happens to a worker, every step but the coming of a caller leaves less to do, so that a
worker has no more steps than six for each of its callers and four of its own.

As long as its task does not die and no caller gives up, every step brings some request closer to
its caller, and there is a step as long as some caller waits.  So all callers get the answer to
their own request, whether the service succeeds or fails, and in whatever order the worker and its
callers take their steps.

## Main definitions

* `Worker.Serving`: a worker whose task is alive and whose callers are all still there, or have
  their replies
* `Worker.work`: how many steps are left for what lies with a worker
* `Worker.unsettled`: the same, with the ends of its router and its inbox

## Main results

* `Worker.Sound.unsettled_move`: every step but the coming of a caller leaves less to do
* `Worker.length_run_le`: how many steps a worker has
* `Worker.Serving.move`: a worker goes on serving, unless the task dies or a caller gives up
* `Worker.Serving.result_eq`: its callers have the answers to their requests
* `Worker.Serving.exists_step`: as long as a caller waits, the worker or the caller has a step
-/

namespace Clearance

namespace Worker

variable {service : Service} {session : WorkerSession} {w w' : Worker} {e : Event} {t : Nat}
  {c : List UInt8}

/-- Neither does the task die, nor does a caller give up. -/
def Event.isSteady : Event → Bool
  | .die | .abandon _ => false
  | .tell _ | .submit _ | .poll _ | .take | .finish | .shut | .route | .close => true

theorem Event.isSteady_of_isInner (h : e.isInner = true) (hd : e ≠ .die) : e.isSteady = true := by
  cases e with
  | tell | submit | poll | abandon => cases h
  | die => exact absurd rfl hd
  | take | finish | shut | route | close => rfl

/-- A worker whose task is alive, and of whose callers none has given up. -/
structure Serving (service : Service) (session : WorkerSession) (w : Worker) : Prop where
  sound : w.Sound service session
  alive : w.alive = true
  stayed : ∀ t, w.phase? t ≠ some .withdrawn

theorem serving_spawn (service : Service) (index : Nat) (session : WorkerSession) :
    (spawn index session).Serving service session where
  sound := sound_spawn service index session
  alive := rfl
  stayed := by simp [spawn, phase?]

/-- A caller has given up only by its own doing. -/
theorem Move.stayed (hm : Move service w e w') {u : Nat} (he : e ≠ .abandon u)
    (h : w.phase? u ≠ some .withdrawn) : w'.phase? u ≠ some .withdrawn := by
  have hset {t : Nat} {p q : Phase} (hq : w.phase? t = some q) (hp : p ≠ .withdrawn) :
      (w.setPhase t p).phase? u ≠ some .withdrawn := by
    rw [phase?_setPhase hq]
    split
    · simpa using hp
    · exact h
  cases hm with
  | submit =>
    rw [phase?_submit]
    split
    · simp
    · exact h
  | @send t c waiting => exact hset (phase?_eq_some_iff.mpr ⟨c, waiting⟩) nofun
  | refuse phase | receive phase | lose phase => exact hset phase nofun
  | @abandon t p phase =>
    have hne : u ≠ t := by
      rintro rfl
      exact he rfl
    show (w.setPhase t .withdrawn).phase? u ≠ _
    rw [phase?_setPhase_of_ne _ hne]
    exact h
  | _ => exact h

/-- **A worker goes on serving unless its task dies or a caller gives up.** -/
theorem Serving.move (h : w.Serving service session) (hm : Move service w e w')
    (he : e.isSteady = true) : w'.Serving service session where
  sound := h.sound.move hm
  alive := (hm.alive_eq (by rintro rfl; cases he)).trans h.alive
  stayed t := hm.stayed (by rintro rfl; cases he) (h.stayed t)

/-- **The callers of a worker that serves have the answers to their own requests.** -/
theorem Serving.result_eq (h : w.Serving service session) (hc : w.ciphertext? t = some c)
    {r : Except PoolFault Outcome} (ht : w.phase? t = some (.done r)) :
    r = .ok (decryptOne service (some session) c) := by
  cases r with
  | ok o =>
    obtain ⟨ha, -⟩ := h.sound.faithful.delivered t o (h.sound.settled.done_ok t o ht)
    rw [answer, hc, Option.map_some] at ha
    rw [Option.some.inj ha]
  | error f =>
    -- only a caller of a dead worker is refused
    have hdead := (h.sound.settled.done_error t f ht).dead
    rw [h.alive] at hdead
    cases hdead

end Worker

/-! ## What is left to do -/

/-- How many steps are left for a caller: five for itself and its request until that has been sent,
and then one. -/
def Phase.work : Phase → Nat
  | .waiting => 5
  | .sent => 1
  | .done _ | .withdrawn => 0

theorem Phase.work_pos {q : Phase} (isOpen : q.isOpen = true) : 0 < q.work := by
  cases q with
  | waiting | sent => exact Nat.succ_pos _
  | done | withdrawn => cases isOpen

/-- How many steps are left for what lies in an inbox: to take it, to answer it if it is a request,
and to hand on the reply. -/
def Envelope.work : Envelope → Nat
  | .start _ => 2
  | .decrypt _ _ => 3

namespace Worker

variable {service : Service} {session : WorkerSession} {w w' : Worker} {e : Event}
  {es : List Event} {t : Nat} {c : List UInt8}

/-- How many steps are left at most for what lies with a worker. -/
def work (w : Worker) : Nat :=
  (w.submissions.map (·.phase.work)).sum + (w.inbox.map Envelope.work).sum +
    2 * w.busy.toList.length + w.outbox.length

theorem work_spawn (index : Nat) (session : WorkerSession) : (spawn index session).work = 2 := rfl

/-- What a caller that goes on has left to do changes by its phase. -/
theorem work_setPhase {q : Phase} (hq : w.phase? t = some q) (p : Phase) :
    (w.setPhase t p).work + q.work = w.work + p.work := by
  obtain ⟨c, hs⟩ := phase?_eq_some_iff.mp hq
  have hset : (w.setPhase t p).submissions = w.submissions.set t ⟨c, p⟩ := by
    rw [setPhase, List.modify_eq_set_getElem?, hs]
    rfl
  have hsum : ((w.submissions.set t ⟨c, p⟩).map (·.phase.work)).sum + q.work =
      (w.submissions.map (·.phase.work)).sum + p.work := sum_map_set (·.phase.work) hs ⟨c, p⟩
  have hrest : (w.setPhase t p).work =
      ((w.submissions.set t ⟨c, p⟩).map (·.phase.work)).sum + (w.inbox.map Envelope.work).sum +
        2 * w.busy.toList.length + w.outbox.length := by
    rw [work, hset]
    rfl
  rw [hrest, work]
  omega

/-- How many steps are left at most for a worker: for what lies with it, and the ends of its router
and of its inbox. -/
def unsettled (w : Worker) : Nat := w.work + w.routing.toNat + w.accepting.toNat

theorem unsettled_spawn (index : Nat) (session : WorkerSession) :
    (spawn index session).unsettled = 4 := rfl

/-- A caller that comes to an end, or whose reply is under way, leaves less to do. -/
theorem unsettled_setPhase {p q : Phase} (hq : w.phase? t = some q) (hless : p.work < q.work) :
    (w.setPhase t p).unsettled + 1 ≤ w.unsettled := by
  have hset := work_setPhase hq p
  show (w.setPhase t p).work + w.routing.toNat + w.accepting.toNat + 1 ≤ _
  rw [unsettled]
  omega

/-- **Every step leaves less to do, but for the coming of a caller.** -/
theorem Sound.unsettled_move (h : w.Sound service session) (hm : Move service w e w') :
    w'.unsettled + 1 ≤ w.unsettled + 6 * (submitted [e]).length := by
  cases hm with
  | tell untold => exact absurd untold h.told.state_ne
  | submit =>
    simp only [unsettled, work, submitted, List.map_append, List.map_cons, List.map_nil,
      List.sum_append, List.sum_cons, List.sum_nil, Phase.work, List.filterMap_cons,
      List.filterMap_nil, List.length_singleton]
    omega
  | @send t c waiting =>
    have hset := work_setPhase (phase?_eq_some_iff.mpr ⟨c, waiting⟩) .sent
    simp only [unsettled, work, setPhase, submitted, Phase.work, Envelope.work, List.map_append,
      List.map_cons, List.map_nil, List.sum_append, List.sum_cons, List.sum_nil,
      List.filterMap_cons, List.filterMap_nil, List.length_nil] at hset ⊢
    omega
  | refuse waiting => exact unsettled_setPhase waiting (Phase.work_pos rfl)
  | receive sent | lose sent => exact unsettled_setPhase sent (Phase.work_pos rfl)
  | abandon phase isOpen =>
    exact unsettled_setPhase (p := .withdrawn) phase (Phase.work_pos isOpen)
  | start _ idle inbox | settle _ idle inbox | ask _ idle inbox =>
    simp only [unsettled, work, post, submitted, idle, inbox, Envelope.work, List.map_cons,
      List.sum_cons, List.length_append, List.length_singleton, Option.toList, List.length_nil,
      List.filterMap_cons, List.filterMap_nil]
    omega
  | finish busy =>
    simp only [unsettled, work, post, submitted, busy, List.length_append, List.length_singleton,
      Option.toList, List.length_nil, List.filterMap_cons, List.filterMap_nil]
    omega
  | die busy =>
    simp only [unsettled, work, submitted, busy, Option.toList, List.length_singleton,
      List.length_nil, List.filterMap_cons, List.filterMap_nil]
    omega
  | shut accepting =>
    simp only [unsettled, work, submitted, accepting, List.map_nil, List.sum_nil, Bool.toNat_true,
      Bool.toNat_false, List.filterMap_cons, List.filterMap_nil, List.length_nil]
    omega
  | announce _ outbox | deliver _ outbox | drop _ outbox =>
    simp only [unsettled, work, submitted, outbox, List.length_cons, List.filterMap_cons,
      List.filterMap_nil, List.length_nil]
    omega
  | close routing =>
    simp only [unsettled, work, submitted, routing, Bool.toNat_true, Bool.toNat_false,
      List.filterMap_cons, List.filterMap_nil, List.length_nil]
    omega

theorem Sound.unsettled_run (h : w.Sound service session) (hrun : w.run service es = some w') :
    w'.unsettled + es.length ≤ w.unsettled + 6 * (submitted es).length := by
  induction es generalizing w with
  | nil =>
    obtain rfl := Option.some.inj hrun
    exact Nat.le_add_right _ _
  | cons e es ih =>
    obtain ⟨v, hv, hr⟩ := Option.bind_eq_some_iff.mp hrun
    have hm : Move service w e v := .of_step hv
    have hfirst := h.unsettled_move hm
    have hrest := ih (h.move hm) hr
    rw [List.length_cons, ← List.singleton_append, submitted_append, List.length_append]
    omega

/-- **A worker has no more steps than six for each of its callers and four of its own.** -/
theorem length_run_le {index : Nat} (h : (spawn index session).run service es = some w) :
    es.length ≤ 4 + 6 * (submitted es).length := by
  have hrun := (sound_spawn service index session).unsettled_run h
  rw [unsettled_spawn] at hrun
  omega

/-- A worker that serves has its router and its inbox. -/
theorem Serving.unsettled_eq (h : w.Serving service session) : w.unsettled = w.work + 2 := by
  rw [unsettled, h.sound.registered.routing_of_alive h.alive,
    h.sound.inLine.accepting_of_alive h.alive]
  rfl

/-- **Every step of a worker that serves leaves less work, but for the coming of a caller.** -/
theorem Serving.work_move (h : w.Serving service session) (hm : Move service w e w')
    (he : e.isSteady = true) : w'.work + 1 ≤ w.work + 6 * (submitted [e]).length := by
  have hless := h.sound.unsettled_move hm
  rw [h.unsettled_eq, (h.move hm he).unsettled_eq] at hless
  omega

/-! ## Someone can always go on -/

/-- A worker that has nothing to do is ready, and has posted every request that was sent to it. -/
theorem Serving.idle (h : w.Serving service session) (hinbox : w.inbox = [])
    (hbusy : w.busy = none) (houtbox : w.outbox = []) :
    w.state = .ready ∧ w.journal.posted = w.journal.entered := by
  constructor
  · cases h.sound.told with
    | unread _ _ inbox => cases hinbox.symm.trans inbox
    | read _ _ _ _ outbox => cases houtbox.symm.trans outbox
    | ready state => exact state
  · have hline := h.sound.inLine.line_eq h.alive
    rw [line, hbusy, hinbox] at hline
    simpa using hline

/-- **As long as a caller waits, the worker has a step, or the caller has.** -/
theorem Serving.exists_step (h : w.Serving service session) {q : Phase} (hq : w.phase? t = some q)
    (isOpen : q.isOpen = true) :
    ∃ e, (e.isInner = true ∧ e ≠ .die ∨ e = .poll t) ∧ (w.step service e).isSome = true := by
  have hrouting : w.routing = true := h.sound.registered.routing_of_alive h.alive
  -- first what is under way to callers, then the call of the service, then the inbox
  cases houtbox : w.outbox with
  | cons posting rest =>
    refine ⟨.route, .inl ⟨rfl, by simp⟩, ?_⟩
    cases posting with
    | ready => simp [step, route, hrouting, houtbox]
    | result u o => by_cases hu : u ∈ w.pending <;> simp [step, route, hrouting, houtbox, hu]
  | nil =>
    cases hbusy : w.busy with
    | some b => exact ⟨.finish, .inl ⟨rfl, by simp⟩, by simp [step, Worker.finish, hbusy]⟩
    | none =>
      cases hinbox : w.inbox with
      | cons envelope rest =>
        refine ⟨.take, .inl ⟨rfl, by simp⟩, ?_⟩
        cases envelope with
        | start s => simp [step, take, h.alive, hbusy, hinbox]
        | decrypt u c =>
          cases hp : prepare w.session c <;> simp [step, take, h.alive, hbusy, hinbox, hp]
      | nil =>
        -- the worker has nothing to do, so that the caller need not wait
        obtain ⟨hready, hposted⟩ := h.idle hinbox hbusy houtbox
        refine ⟨.poll t, .inr rfl, ?_⟩
        obtain ⟨c, hs⟩ := phase?_eq_some_iff.mp hq
        cases q with
        | done | withdrawn => cases isOpen
        | waiting => simp [step, poll, hs, hready]
        | sent =>
          have hpending : t ∉ w.pending := by
            intro hp
            have hentered := h.sound.known.entered_of_sent t hq
            obtain ⟨o, ho⟩ | hd | hw := h.sound.settled.accounted t (hposted ▸ hentered)
            · rw [houtbox] at ho
              cases ho
            · exact ((h.sound.registered.mem_pending_iff t).mp hp).2.1 hd
            · exact h.stayed t hw
          change (w.poll t).isSome = true
          rw [poll_eq_of_sent hs hpending]
          rfl

end Worker
end Clearance
