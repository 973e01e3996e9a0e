import Clearance.Worker.Birth
import Clearance.Proofs.Worker.Sound

/-!
# A worker in the making is one that was spawned

Whatever happens while a worker is made could happen as well after its making, and leads to the same
state.  The task takes its session from the inbox in its own time; callers do nothing but come, wait
and give up until the worker is ready, and that they are told by the router, which goes on last.  So
what holds in every run of `Worker.spawn` holds of every worker in the making.

From this follows how a worker comes to be ready, and that a caller that comes too early waits.

## Main definitions

* `Birth.asSpawned`: the spawned worker that a worker in the making stands for
* `Birth.workerEvents`: what happens to the worker, among all that happens
* `Birth.left`: how many steps are left until the worker is ready

## Main results

* `Birth.run_asSpawned`: every run is a run of a spawned worker
* `Birth.Made.state_step`: states change in their order
* `Birth.Made.left_step`, `Birth.Made.exists_inner_step`: the worker gets ready in so many steps,
  each of which it can take
-/

namespace Clearance

open Worker (spawn submitted)

variable {service : Service} {session : WorkerSession} {w w' : Worker} {e : Worker.Event} {t : Nat}

/-- The outcome of a request to a task without a session. -/
def Outcome.uninitialized : Outcome :=
  { error := some "worker received decryption request before initialization" }

/-- Texts with different first letters differ. -/
theorem append_ne_of_head {s r u : String} {a b : Char} (hs : s.toList.head? = some a)
    (hu : u.toList.head? = some b) (hab : a ≠ b) : s ++ r ≠ u := by
  intro h
  rw [← h, String.toList_append, List.head?_append, hs] at hu
  exact hab (Option.some.inj hu)

theorem ServiceFault.message_ne (f : ServiceFault) :
    f.message ≠ "worker received decryption request before initialization" := by
  cases f with
  | auth => exact append_ne_of_head (a := 'a') (b := 'w') rfl rfl (by decide)
  | keyAccess => exact append_ne_of_head (a := 'k') (b := 'w') rfl rfl (by decide)
  | malformed => exact append_ne_of_head (a := 'm') (b := 'w') rfl rfl (by decide)
  | decrypt => exact append_ne_of_head (a := 'd') (b := 'w') rfl rfl (by decide)

/-- A task with a session does not say that it has none, whatever the service answers. -/
theorem decryptOne_error_ne (service : Service) (session : WorkerSession) (c : List UInt8) :
    (decryptOne service (some session) c).error ≠ Outcome.uninitialized.error := by
  rw [decryptOne, prepare]
  by_cases hc : c.isEmpty = true
  · rw [if_pos hc]
    exact (Option.some_ne_none _).symm
  · rw [if_neg hc]
    by_cases hu : session.user.refreshToken = ""
    · rw [if_pos hu]
      exact fun h => ServiceFault.message_ne _ (Option.some.inj h)
    · rw [if_neg hu]
      show (Outcome.ofAnswer (service _)).error ≠ _
      cases service ⟨.classify c, c, session⟩ with
      | ok text => exact (Option.some_ne_none _).symm
      | error f => exact fun h => ServiceFault.message_ne f (Option.some.inj h)

/-! ## A worker that was told ahead of time -/

namespace Worker

/-- A worker whose callers are shown that it was told. -/
def shown (w : Worker) : Worker := { w with state := .initializing }

/-- A worker with a session in its inbox, and nothing else there. -/
def handed (w : Worker) (session : WorkerSession) : Worker := { w with inbox := [.start session] }

/-- What a caller does. -/
def Event.isOfCaller : Event → Bool
  | .submit _ | .poll _ | .abandon _ => true
  | .tell _ | .take | .finish | .die | .shut | .route | .close => false

/-- What becomes of a caller that goes on before the worker is ready; none where it has to wait. -/
def earlyPhase? (w : Worker) (t : Nat) : Option Phase :=
  match w.phase? t with
  | some .waiting => if w.routing then none else some (.done w.gone)
  | some .sent =>
    match w.delivered.lookup t with
    | some o => some (.done (.ok o))
    | none => if t ∈ w.pending then none else some (.done w.gone)
  | _ => none

theorem poll_of_not_ready (hs : w.state ≠ .ready) (t : Nat) :
    w.poll t = (w.earlyPhase? t).map (w.setPhase t) := by
  unfold Worker.poll earlyPhase? phase?
  rcases w.submissions[t]? with _ | ⟨c, phase⟩
  · rfl
  · cases phase with
    | waiting =>
      simp only [Option.map_some, if_neg hs]
      split <;> rfl
    | sent =>
      simp only [Option.map_some]
      cases w.delivered.lookup t with
      | some o => rfl
      | none => by_cases hp : t ∈ w.pending <;> simp [hp, gone]
    | done | withdrawn => rfl

/-- A caller that goes on does not see what else callers are shown before the worker is ready. -/
theorem poll_shown (hs : w.state = .uninitialized) (t : Nat) :
    w.shown.poll t = (w.poll t).map shown := by
  rw [poll_of_not_ready (w := w.shown) nofun, poll_of_not_ready (by simp [hs]), Option.map_map]
  rfl

/-- Nor does it look into the inbox. -/
theorem poll_handed (hs : w.state = .uninitialized) (session : WorkerSession) (t : Nat) :
    (w.handed session).poll t = (w.poll t).map (·.handed session) := by
  have hready : w.state ≠ .ready := by simp [hs]
  rw [poll_of_not_ready (w := w.handed session) hready, poll_of_not_ready hready, Option.map_map]
  rfl

theorem abandon_shown (w : Worker) (t : Nat) : w.shown.abandon t = (w.abandon t).map shown := by
  unfold Worker.abandon
  dsimp only [shown]
  rcases w.submissions[t]? with _ | ⟨c, _ | _ | _ | _⟩ <;> rfl

theorem abandon_handed (w : Worker) (session : WorkerSession) (t : Nat) :
    (w.handed session).abandon t = (w.abandon t).map (·.handed session) := by
  unfold Worker.abandon
  dsimp only [handed]
  rcases w.submissions[t]? with _ | ⟨c, _ | _ | _ | _⟩ <;> rfl

theorem take_shown (w : Worker) : w.shown.take = w.take.map shown := by
  by_cases hc : w.alive = true ∧ w.busy = none
  · obtain ⟨alive, idle⟩ := hc
    simp only [Worker.take, shown, alive, idle, and_self, if_true]
    rcases w.inbox with _ | ⟨_ | ⟨t, c⟩, rest⟩
    · rfl
    · rfl
    · dsimp only
      cases prepare w.session c <;> rfl
  · simp [Worker.take, shown, hc]

/-- The task and the callers do not care what callers are shown before the worker is ready. -/
theorem step_shown (hs : w.state = .uninitialized) (he : Birth.Stage.permits .told e = true) :
    w.shown.step service e = (w.step service e).map shown := by
  cases e with
  | tell | route | close => cases he
  | submit => rfl
  | poll t => exact poll_shown hs t
  | abandon t => exact abandon_shown w t
  | take => exact take_shown w
  | finish =>
    simp only [step, Worker.finish, shown]
    cases w.busy <;> rfl
  | die =>
    simp only [step, Worker.die, shown]
    cases w.busy <;> rfl
  | shut =>
    by_cases hc : w.accepting ∧ w.alive = false
    · simp [step, Worker.shut, shown, hc]
    · simp [step, Worker.shut, shown, hc]

/-- Callers do not care what lies in the inbox before the worker is ready. -/
theorem step_handed (hs : w.state = .uninitialized) (he : e.isOfCaller = true) :
    (w.handed session).step service e = (w.step service e).map (·.handed session) := by
  cases e with
  | tell | take | finish | die | shut | route | close => cases he
  | submit => rfl
  | poll t => exact poll_handed hs session t
  | abandon t => exact abandon_handed w session t

/-- Callers and the task do not change what callers are shown. -/
theorem Move.state_eq (hm : Move service w e w') (he : Birth.Stage.permits .told e = true) :
    w'.state = w.state := by
  cases hm with
  | tell | announce | deliver | drop | close => cases he
  | _ => rfl

/-- A request enters only when the worker is ready. -/
theorem Move.ready_of_entered (hm : Move service w e w')
    (h : w.journal.entered ≠ [] → w.state = .ready) (hne : w'.journal.entered ≠ []) :
    w'.state = .ready := by
  cases hm with
  | tell untold =>
    have ready := h hne
    rw [untold] at ready
    cases ready
  | send _ ready => exact ready
  | announce => rfl
  | _ => exact h hne

end Worker

namespace Birth

variable {b b' : Birth} {f : Event} {es : List Event} {index : Nat}

/-- What happens to the worker, among all that happens. -/
def workerEvents (es : List Event) : List Worker.Event :=
  es.filterMap fun
    | .advance => none
    | .worker e => some e

/-- The spawned worker that a worker in the making stands for: what its maker is about to tell it,
it was told already. -/
def asSpawned (b : Birth) : Worker :=
  match b.stage with
  | .running => (b.worker.handed b.session).shown
  | .told => b.worker.shown
  | .shown | .complete => b.worker

/-- What a step changes: it is one of the maker, and the worker stands for the same as before; or it
is one of the worker. -/
theorem step_cases (h : b.step service f = some b') :
    (f = .advance ∧ b.advance = some b') ∨
      ∃ e w', f = .worker e ∧ b.stage.permits e = true ∧ b.worker.step service e = some w' ∧
        b' = { b with worker := w' } := by
  cases f with
  | advance => exact .inl ⟨rfl, h⟩
  | worker e =>
    simp only [step] at h
    split at h
    · next he =>
      obtain ⟨w', hw', hb'⟩ := Option.map_eq_some_iff.mp h
      exact .inr ⟨e, w', rfl, he, hw', hb'.symm⟩
    · cases h

/-- What no one has yet done before a worker was told its session. -/
structure Untouched (b : Birth) : Prop where
  running : b.stage = .running →
    b.worker.inbox = [] ∧ b.worker.busy = none ∧ b.worker.alive = true ∧
      b.worker.accepting = true
  state : b.stage = .running ∨ b.stage = .told → b.worker.state = .uninitialized

theorem untouched_begin (index : Nat) (session : WorkerSession) :
    (begin index session).Untouched :=
  ⟨fun _ => ⟨rfl, rfl, rfl, rfl⟩, fun _ => rfl⟩

/-- A step of the maker. -/
theorem Untouched.advance (h : b.Untouched) (hb : b.advance = some b') :
    b'.Untouched ∧ b'.session = b.session ∧ b'.asSpawned = b.asSpawned := by
  obtain ⟨w, s, stage⟩ := b
  cases stage with
  | running =>
    obtain ⟨inbox, -, -, accepting⟩ := h.running rfl
    have state := h.state (.inl rfl)
    dsimp only at inbox accepting
    rw [Birth.advance, if_pos accepting] at hb
    obtain rfl := Option.some.inj hb
    refine ⟨⟨nofun, fun _ => state⟩, rfl, ?_⟩
    simp [asSpawned, Worker.handed, Worker.shown, inbox]
  | told =>
    obtain rfl := Option.some.inj hb
    exact ⟨⟨nofun, by simp⟩, rfl, rfl⟩
  | shown =>
    obtain rfl := Option.some.inj hb
    exact ⟨⟨nofun, by simp⟩, rfl, rfl⟩
  | complete => cases hb

/-- Before a worker is told anything, only callers can do something. -/
theorem Untouched.isOfCaller (h : b.Untouched) (hstage : b.stage = .running)
    (he : b.stage.permits e = true) (hw : b.worker.step service e = some w') :
    e.isOfCaller = true ∧ w'.inbox = [] ∧ w'.busy = none ∧ w'.alive = true ∧
      w'.accepting = true := by
  obtain ⟨inbox, idle, alive, accepting⟩ := h.running hstage
  rw [hstage] at he
  cases Worker.Move.of_step hw with
  | tell | announce | deliver | drop | close => cases he
  | start _ _ inbox' | settle _ _ inbox' | ask _ _ inbox' =>
    rw [inbox] at inbox'
    cases inbox'
  | finish busy | die busy =>
    rw [idle] at busy
    cases busy
  | shut _ dead => cases alive.symm.trans dead
  | send _ ready =>
    rw [h.state (.inl hstage)] at ready
    cases ready
  | submit | refuse | receive | lose | abandon => exact ⟨rfl, inbox, idle, alive, accepting⟩

theorem permits_mono {stage : Stage} (he : stage.permits e = true) (hs : stage ≠ .complete) :
    Stage.permits .told e = true := by
  cases e with
  | route | close => exact absurd (of_decide_eq_true he) hs
  | tell => cases he
  | _ => rfl

/-- A step of the worker. -/
theorem Untouched.worker (h : b.Untouched) (he : b.stage.permits e = true)
    (hw : b.worker.step service e = some w') :
    ({ b with worker := w' } : Birth).Untouched ∧
      b.asSpawned.step service e = some ({ b with worker := w' } : Birth).asSpawned := by
  obtain ⟨w, s, stage⟩ := b
  cases stage with
  | running =>
    obtain ⟨caller, inbox, idle, alive, accepting⟩ := h.isOfCaller rfl he hw
    have state : w.state = .uninitialized := h.state (.inl rfl)
    have he' := permits_mono he nofun
    refine ⟨⟨fun _ => ⟨inbox, idle, alive, accepting⟩, fun _ => ?_⟩, ?_⟩
    · exact ((Worker.Move.of_step hw).state_eq he').trans state
    · show (w.handed s).shown.step service e = _
      rw [Worker.step_shown (w := w.handed s) state he', Worker.step_handed state caller, hw]
      rfl
  | told =>
    have state : w.state = .uninitialized := h.state (.inr rfl)
    refine ⟨⟨nofun, fun _ => ((Worker.Move.of_step hw).state_eq he).trans state⟩, ?_⟩
    show w.shown.step service e = _
    rw [Worker.step_shown state he, hw]
    rfl
  | shown | complete => exact ⟨⟨nofun, by simp⟩, hw⟩

/-- **What happens to a worker in the making happens to the spawned worker that it stands for.** -/
theorem Untouched.run_asSpawned (h : b.Untouched) (hrun : b.run service es = some b') :
    b'.Untouched ∧ b'.session = b.session ∧
      b.asSpawned.run service (workerEvents es) = some b'.asSpawned := by
  induction es generalizing b with
  | nil =>
    obtain rfl := Option.some.inj hrun
    exact ⟨h, rfl, rfl⟩
  | cons f es ih =>
    obtain ⟨c, hc, hr⟩ := Option.bind_eq_some_iff.mp hrun
    obtain ⟨rfl, hadvance⟩ | ⟨e, w', rfl, he, hw, rfl⟩ := step_cases hc
    · obtain ⟨hcu, hsession, hsame⟩ := h.advance hadvance
      obtain ⟨hu, hs, hspawned⟩ := ih hcu hr
      exact ⟨hu, hs.trans hsession, hsame ▸ hspawned⟩
    · obtain ⟨hcu, hstep⟩ := h.worker he hw
      obtain ⟨hu, hs, hspawned⟩ := ih hcu hr
      refine ⟨hu, hs, ?_⟩
      show Worker.run service b.asSpawned (e :: workerEvents es) = _
      rw [Worker.run_cons, hstep]
      exact hspawned

/-- **Every run of a worker in the making is one of a spawned worker.** -/
theorem run_asSpawned (h : (begin index session).run service es = some b) :
    (spawn index session).run service (workerEvents es) = some b.asSpawned :=
  ((untouched_begin index session).run_asSpawned h).2.2

section Fields

variable (b : Birth)

theorem index_asSpawned : b.asSpawned.index = b.worker.index := by
  rw [asSpawned]
  split <;> rfl

theorem session_asSpawned : b.asSpawned.session = b.worker.session := by
  rw [asSpawned]
  split <;> rfl

theorem busy_asSpawned : b.asSpawned.busy = b.worker.busy := by
  rw [asSpawned]
  split <;> rfl

theorem outbox_asSpawned : b.asSpawned.outbox = b.worker.outbox := by
  rw [asSpawned]
  split <;> rfl

theorem alive_asSpawned : b.asSpawned.alive = b.worker.alive := by
  rw [asSpawned]
  split <;> rfl

theorem accepting_asSpawned : b.asSpawned.accepting = b.worker.accepting := by
  rw [asSpawned]
  split <;> rfl

theorem submissions_asSpawned : b.asSpawned.submissions = b.worker.submissions := by
  rw [asSpawned]
  split <;> rfl

theorem journal_asSpawned : b.asSpawned.journal = b.worker.journal := by
  rw [asSpawned]
  split <;> rfl

end Fields

/-- A worker in the making lacks at most its session in the inbox. -/
theorem mem_inbox_asSpawned (h : b.Untouched) {envelope : Envelope}
    (hm : envelope ∈ b.worker.inbox) : envelope ∈ b.asSpawned.inbox := by
  rw [asSpawned]
  split
  · next hstage =>
    rw [(h.running hstage).1] at hm
    cases hm
  all_goals exact hm

/-- No one can see the worker ready too early. -/
theorem ready_of_asSpawned (hs : b.asSpawned.state = .ready) : b.worker.state = .ready := by
  rw [asSpawned] at hs
  split at hs
  · cases hs
  · cases hs
  all_goals exact hs

/-! ## How a worker becomes ready -/

/-- What holds of a worker in the making at every moment. -/
structure Made (service : Service) (session : WorkerSession) (b : Birth) : Prop where
  untouched : b.Untouched
  session_eq : b.session = session
  sound : b.asSpawned.Sound service session
  ready_of_entered : b.asSpawned.journal.entered ≠ [] → b.asSpawned.state = .ready

theorem made_begin (service : Service) (index : Nat) (session : WorkerSession) :
    (begin index session).Made service session where
  untouched := untouched_begin index session
  session_eq := rfl
  sound := Worker.sound_spawn service index session
  ready_of_entered hne := absurd rfl hne

theorem Made.run (h : b.Made service session) (hrun : b.run service es = some b') :
    b'.Made service session := by
  obtain ⟨hu, hs, hspawned⟩ := h.untouched.run_asSpawned hrun
  exact {
    untouched := hu
    session_eq := hs.trans h.session_eq
    sound := Worker.invariant_run (fun hv hm => hv.move hm) hspawned h.sound
    ready_of_entered := Worker.invariant_run
      (P := fun v => v.journal.entered ≠ [] → v.state = .ready)
      (fun hv hm => hm.ready_of_entered hv) hspawned h.ready_of_entered }

theorem Made.step (h : b.Made service session) (hstep : b.step service f = some b') :
    b'.Made service session := by
  have hrun : b.run service [f] = some b' := by
    rw [Birth.run, hstep]
    rfl
  exact h.run hrun

/-- **States change in their order**, one at a time. -/
theorem Made.state_step (h : b.Made service session) (hstep : b.step service f = some b') :
    b'.worker.state = b.worker.state ∨
      b.worker.state = .uninitialized ∧ b'.worker.state = .initializing ∨
      b.worker.state = .initializing ∧ b'.worker.state = .ready := by
  obtain ⟨rfl, hadvance⟩ | ⟨e, w', rfl, he, hw, rfl⟩ := step_cases hstep
  · unfold Birth.advance at hadvance
    split at hadvance
    · split at hadvance
      all_goals
        obtain rfl := Option.some.inj hadvance
        exact .inl rfl
    · next hstage =>
      obtain rfl := Option.some.inj hadvance
      exact .inr (.inl ⟨h.untouched.state (.inr hstage), rfl⟩)
    · obtain rfl := Option.some.inj hadvance
      exact .inl rfl
    · cases hadvance
  · cases Worker.Move.of_step hw with
    | tell => cases he
    | announce _ outbox =>
      -- the router has something to announce only once, and only if the task was told
      rw [← outbox_asSpawned] at outbox
      have hstage : b.stage = .complete := of_decide_eq_true he
      have heq : b.asSpawned = b.worker := by rw [asSpawned, hstage]
      cases h.sound.told with
      | unread _ _ _ _ empty =>
        rw [empty] at outbox
        cases outbox
      | read state => exact .inr (.inr ⟨heq ▸ state, rfl⟩)
      | ready _ _ _ announced => exact absurd (by simp [outbox]) announced
    | _ => exact .inl rfl

end Birth

/-- The place of a state in the order in which a worker comes to them. -/
def WorkerState.rank (s : WorkerState) : Nat := all.idxOf s

namespace Birth

variable {b b' : Birth} {f : Event} {es : List Event} {index : Nat}

theorem Made.rank_step (h : b.Made service session) (hstep : b.step service f = some b') :
    b.worker.state.rank ≤ b'.worker.state.rank := by
  obtain hs | ⟨hs, hs'⟩ | ⟨hs, hs'⟩ := h.state_step hstep
  · exact Nat.le_of_eq (congrArg _ hs.symm)
  · rw [hs, hs']
    decide
  · rw [hs, hs']
    decide

/-- **States never go back.** -/
theorem Made.rank_run (h : b.Made service session) (hrun : b.run service es = some b') :
    b.worker.state.rank ≤ b'.worker.state.rank := by
  induction es generalizing b with
  | nil =>
    obtain rfl := Option.some.inj hrun
    exact Nat.le_refl _
  | cons f es ih =>
    obtain ⟨c, hc, hr⟩ := Option.bind_eq_some_iff.mp hrun
    exact Nat.le_trans (h.rank_step hc) (ih (h.step hc) hr)

/-- A worker that is ready stays so. -/
theorem Made.ready_run (h : b.Made service session) (hrun : b.run service es = some b')
    (hs : b.worker.state = .ready) : b'.worker.state = .ready := by
  have hle := h.rank_run hrun
  rw [hs] at hle
  cases hs' : b'.worker.state with
  | ready => rfl
  | uninitialized | initializing =>
    rw [hs'] at hle
    exact absurd hle (by decide)

/-- **No request enters before the worker is ready.** -/
theorem Made.ready_of_mem_entered (h : b.Made service session) (ht : t ∈ b.worker.journal.entered) :
    b.worker.state = .ready := by
  rw [← journal_asSpawned] at ht
  exact ready_of_asSpawned (h.ready_of_entered (List.ne_nil_of_mem ht))

theorem Made.ready_of_inbox (h : b.Made service session) {c : List UInt8}
    (hc : .decrypt t c ∈ b.worker.inbox) : b.worker.state = .ready := by
  have ht := h.sound.inLine.entered_of_inbox (mem_inbox_asSpawned h.untouched hc)
  rw [journal_asSpawned] at ht
  exact h.ready_of_mem_entered ht

/-- **A task that has a request has its session.** -/
theorem Made.session_of_request (h : b.Made service session) {c : List UInt8}
    (hc : .decrypt t c ∈ b.worker.inbox ∨ b.worker.busy = some (t, c)) :
    b.worker.session = some session := by
  rw [← session_asSpawned]
  rcases hc with hc | hc
  · exact h.sound.told.session_of_mem (mem_inbox_asSpawned h.untouched hc)
  · rw [← busy_asSpawned] at hc
    exact h.sound.told.session_of_busy hc

/-! ## Early callers -/

theorem phase?_asSpawned (b : Birth) (t : Nat) : b.asSpawned.phase? t = b.worker.phase? t := by
  rw [Worker.phase?, Worker.phase?, submissions_asSpawned]

theorem ciphertext?_asSpawned (b : Birth) (t : Nat) :
    b.asSpawned.ciphertext? t = b.worker.ciphertext? t := by
  rw [Worker.ciphertext?, Worker.ciphertext?, submissions_asSpawned]

/-- **No caller is forgotten**: it waits for the worker, has given up, or has sent its request.  The
others found the task dead. -/
theorem Made.caller_cases (h : b.Made service session) {p : Phase}
    (hp : b.worker.phase? t = some p) :
    p = .waiting ∨ p = .withdrawn ∨ t ∈ b.worker.journal.entered ∨
      b.worker.alive = false ∧ p = .done (.error (.workerGone b.worker.index)) := by
  rw [← phase?_asSpawned] at hp
  rw [← journal_asSpawned, ← alive_asSpawned, ← index_asSpawned]
  cases p with
  | waiting => exact .inl rfl
  | withdrawn => exact .inr (.inl rfl)
  | sent => exact .inr (.inr (.inl (h.sound.known.entered_of_sent t hp)))
  | done r =>
    cases r with
    | ok o =>
      obtain ⟨-, hposted⟩ := h.sound.faithful.delivered t o (h.sound.settled.done_ok t o hp)
      exact .inr (.inr (.inl (h.sound.inLine.entered_of_posted hposted)))
    | error fault =>
      have hun := h.sound.settled.done_error t fault hp
      exact .inr (.inr (.inr ⟨hun.dead, congrArg (Phase.done ∘ Except.error) hun.eq⟩))

/-- **A reply is the outcome of the request in the session of the worker**, and does not say that
there is none. -/
theorem Made.outcome_of_done (h : b.Made service session) {c : List UInt8}
    (hc : b.worker.ciphertext? t = some c) {o : Outcome}
    (hp : b.worker.phase? t = some (.done (.ok o))) :
    o = decryptOne service (some session) c ∧ o.error ≠ Outcome.uninitialized.error := by
  rw [← phase?_asSpawned] at hp
  rw [← ciphertext?_asSpawned] at hc
  obtain ⟨hanswer, -⟩ := h.sound.faithful.delivered t o (h.sound.settled.done_ok t o hp)
  rw [Worker.answer, hc] at hanswer
  obtain rfl := Option.some.inj hanswer
  exact ⟨rfl, decryptOne_error_ne service session c⟩

/-- Before the worker is ready, its task is alive. -/
theorem Made.alive_of_not_ready (h : b.Made service session) (hs : b.worker.state ≠ .ready) :
    b.worker.alive = true := by
  refine Bool.of_not_eq_false fun hd => hs ?_
  rw [← alive_asSpawned] at hd
  exact ready_of_asSpawned (h.sound.told.ready_of_dead hd)

/-- **A caller that comes early waits**, unless it gives up. -/
theorem Made.caller_of_not_ready (h : b.Made service session) (hs : b.worker.state ≠ .ready)
    {p : Phase} (hp : b.worker.phase? t = some p) : p = .waiting ∨ p = .withdrawn := by
  obtain hw | hw | ht | ⟨dead, -⟩ := h.caller_cases hp
  · exact .inl hw
  · exact .inr hw
  · exact absurd (h.ready_of_mem_entered ht) hs
  · rw [h.alive_of_not_ready hs] at dead
    cases dead

/-- **A caller that has waited for the worker sends its request** as soon as it goes on. -/
theorem Made.send_of_waiting (h : b.Made service session) (hs : b.worker.state = .ready)
    (ha : b.worker.alive = true) {c : List UInt8} (hc : b.worker.ciphertext? t = some c)
    (hp : b.worker.phase? t = some .waiting) :
    ∃ b', b.step service (.worker (.poll t)) = some b' ∧ b'.worker.phase? t = some .sent ∧
      b'.worker.inbox = b.worker.inbox ++ [.decrypt t c] ∧
      b'.worker.journal.entered = b.worker.journal.entered ++ [t] := by
  have haccepting : b.worker.accepting = true := by
    rw [← alive_asSpawned] at ha
    rw [← accepting_asSpawned]
    exact h.sound.inLine.accepting_of_alive ha
  obtain ⟨d, hd⟩ := Worker.phase?_eq_some_iff.mp hp
  obtain rfl : d = c := by
    rw [Worker.ciphertext?, hd] at hc
    exact Option.some.inj hc
  have hpoll : b.worker.step service (.poll t) = some (b.worker.send t d) := by
    show b.worker.poll t = _
    rw [Worker.poll, hd]
    dsimp only
    rw [if_pos hs]
  refine ⟨{ b with worker := b.worker.send t d }, ?_, ?_, ?_, ?_⟩
  · rw [Birth.step, if_pos (by rfl), hpoll]
    rfl
  · rw [Worker.send, if_pos haccepting]
    exact Worker.phase?_setPhase_self hp
  · rw [Worker.send, if_pos haccepting]
  · rw [Worker.send, if_pos haccepting]
    rfl

/-! ## Getting ready -/

/-- How many steps of its maker are left. -/
def Stage.left : Stage → Nat
  | .running => 3
  | .told => 2
  | .shown => 1
  | .complete => 0

/-- How many steps are left until the worker is ready: those of its maker, that in which the task
takes its session, and that in which the router announces it. -/
def left (b : Birth) : Nat :=
  b.stage.left + (if b.worker.session = none then 1 else 0) +
    (if b.worker.state = .ready then 0 else 1)

/-- A step that is neither one of a caller nor one of the decryption service. -/
def Event.isInner : Event → Bool
  | .advance | .worker .take | .worker .route => true
  | .worker (.tell _) | .worker (.submit _) | .worker (.poll _) | .worker (.abandon _)
  | .worker .finish | .worker .die | .worker .shut | .worker .close => false

/-- **Each inner step leaves one step less**, and no other step adds one. -/
theorem Made.left_step (h : b.Made service session) (hs : b.worker.state ≠ .ready)
    (hstep : b.step service f = some b') :
    b'.left + (if f.isInner then 1 else 0) = b.left := by
  obtain ⟨rfl, hadvance⟩ | ⟨e, w', rfl, he, hw, rfl⟩ := step_cases hstep
  · obtain ⟨w, s, stage⟩ := b
    cases stage with
    | running =>
      obtain ⟨-, -, -, accepting⟩ := h.untouched.running rfl
      dsimp only at accepting
      rw [Birth.advance, if_pos accepting] at hadvance
      obtain rfl := Option.some.inj hadvance
      simp only [left, Stage.left, Event.isInner, if_true]
      omega
    | told =>
      obtain rfl := Option.some.inj hadvance
      dsimp only at hs
      simp only [left, Stage.left, Event.isInner, if_true, if_neg hs, if_neg (show
        WorkerState.initializing ≠ .ready from nofun)]
      omega
    | shown =>
      obtain rfl := Option.some.inj hadvance
      simp only [left, Stage.left, Event.isInner, if_true]
      omega
    | complete => cases hadvance
  · cases Worker.Move.of_step hw with
    | tell => cases he
    | start _ _ inbox =>
      -- the session is still unread
      have hstart := mem_inbox_asSpawned h.untouched (inbox ▸ List.mem_cons_self)
      have unset : b.worker.session = none := by
        rw [← session_asSpawned]
        cases h.sound.told with
        | unread _ unset => exact unset
        | read _ _ inbox' => simp [inbox'] at hstart
        | ready _ _ inbox' => exact absurd hstart (inbox' _)
      simp [left, Event.isInner, unset, hs]
    | settle _ _ inbox | ask _ _ inbox =>
      exact absurd (h.ready_of_inbox (inbox ▸ List.mem_cons_self)) hs
    | announce => simp [left, Event.isInner, hs]
    | deliver _ outbox | drop _ outbox =>
      -- the first thing that the router finds is that the worker is ready
      rw [← outbox_asSpawned] at outbox
      cases h.sound.told with
      | unread _ _ _ _ outbox' | read _ _ _ _ outbox' =>
        rw [outbox'] at outbox
        cases outbox
      | ready ready => exact absurd (ready_of_asSpawned ready) hs
    | submit | send | refuse | receive | lose | abandon | finish | die | shut | close => rfl

/-- **As long as the worker is not ready, there is such a step.** -/
theorem Made.exists_inner_step (h : b.Made service session) (hs : b.worker.state ≠ .ready) :
    ∃ f : Event, f.isInner = true ∧ (b.step service f).isSome = true := by
  by_cases hstage : b.stage = .complete
  · have heq : b.asSpawned = b.worker := by rw [asSpawned, hstage]
    have htold := h.sound.told
    have hr := h.sound.registered
    rw [heq] at htold hr
    cases htold with
    | unread _ _ inbox idle _ alive =>
      refine ⟨.worker .take, rfl, ?_⟩
      simp [Birth.step, Stage.permits, Worker.step, Worker.take, alive, idle, inbox]
    | read _ _ _ _ outbox alive =>
      refine ⟨.worker .route, rfl, ?_⟩
      simp [Birth.step, Stage.permits, hstage, Worker.step, Worker.route, outbox,
        hr.routing_of_alive alive]
    | ready ready => exact absurd ready hs
  · refine ⟨.advance, rfl, ?_⟩
    show b.advance.isSome = true
    unfold Birth.advance
    split
    · split <;> rfl
    · rfl
    · rfl
    · next hc => exact absurd hc hstage

/-- **Five inner steps make a worker ready.** -/
theorem Made.left_run (h : b.Made service session) (hrun : b.run service es = some b')
    (hs : b'.worker.state ≠ .ready) : b'.left + es.countP Event.isInner = b.left := by
  induction es generalizing b with
  | nil =>
    obtain rfl := Option.some.inj hrun
    rfl
  | cons f es ih =>
    obtain ⟨c, hc, hr⟩ := Option.bind_eq_some_iff.mp hrun
    have hb : b.worker.state ≠ .ready := fun hb => hs (h.ready_run hrun hb)
    rw [← h.left_step hb hc, ← ih (h.step hc) hr, List.countP_cons, Nat.add_assoc]

/-- A worker that is not ready has not taken all of its inner steps. -/
theorem left_pos (hs : b.worker.state ≠ .ready) : 0 < b.left := by
  rw [left, if_neg hs]
  exact Nat.succ_pos _

/-! ## After the making -/

/-- **Once it is made, a worker in the making is a spawned worker**: the same happens to both. -/
theorem Made.run_worker (h : b.Made service session) (hstage : b.stage = .complete)
    {es : List Worker.Event} (hrun : b.worker.run service es = some w) :
    b.run service (es.map .worker) = some { b with worker := w } := by
  induction es generalizing b with
  | nil =>
    obtain rfl := Option.some.inj hrun
    rfl
  | cons e es ih =>
    obtain ⟨v, hv, hr⟩ := Option.bind_eq_some_iff.mp hrun
    -- no one else tells it a session
    have hpermits : b.stage.permits e = true := by
      rw [hstage]
      cases e with
      | tell =>
        have heq : b.asSpawned = b.worker := by rw [asSpawned, hstage]
        cases Worker.Move.of_step hv with
        | tell untold => exact absurd (heq ▸ untold) h.sound.told.state_ne
      | _ => rfl
    have hstep : b.step service (.worker e) = some { b with worker := v } := by
      rw [Birth.step, if_pos hpermits, hv]
      rfl
    rw [List.map_cons, Birth.run, hstep]
    exact ih (h.step hstep) hstage hr

end Birth
end Clearance
