import Clearance.Worker.Basic

/-!
# The moves of a worker

An event can turn out in different ways: a caller that goes on sends its request, is refused,
takes its answer, or finds that its worker is gone.  A move is an event together with the way in
which it turned out.  Proofs about all that a worker can do go through the moves one by one and
need not look into the step function again.

## Main definitions

* `Worker.Move`: the ways in which an event can turn out
* `Worker.ciphertext?`: the request of a caller
* `Worker.submitted`: the requests of a run

## Main results

* `Worker.Move.of_step`: what an event changes is one of its moves
* `Worker.invariant_run`: what every move keeps, every run keeps
* `Worker.ciphertext?_run`: the callers of a run have the requests with which they came
-/

namespace Clearance

/-- The caller still waits: for the worker, or for its reply. -/
def Phase.isOpen : Phase → Bool
  | .waiting | .sent => true
  | .done _ | .withdrawn => false

/-- The caller gave up. -/
def Phase.isWithdrawn : Phase → Bool
  | .withdrawn => true
  | .waiting | .sent | .done _ => false

namespace Worker

/-- The request of the caller with a ticket. -/
def ciphertext? (w : Worker) (ticket : Nat) : Option (List UInt8) :=
  w.submissions[ticket]?.map (·.ciphertext)

/-- The answer of a caller that finds no one. -/
def gone (w : Worker) : Except PoolFault Outcome := .error (.workerGone w.index)

/-! ## How far callers have come -/

theorem phase?_eq_some_iff {w : Worker} {t : Nat} {p : Phase} :
    w.phase? t = some p ↔ ∃ c, w.submissions[t]? = some ⟨c, p⟩ := by
  rw [phase?, Option.map_eq_some_iff]
  refine ⟨?_, fun ⟨c, hc⟩ => ⟨_, hc, rfl⟩⟩
  rintro ⟨⟨c, p⟩, hs, rfl⟩
  exact ⟨c, hs⟩

/-- A caller that has a request has come some way. -/
theorem exists_phase? {w : Worker} {t : Nat} {c : List UInt8} (h : w.ciphertext? t = some c) :
    ∃ p, w.phase? t = some p := by
  obtain ⟨s, hs, -⟩ := Option.map_eq_some_iff.mp h
  exact ⟨s.phase, by rw [phase?, hs, Option.map_some]⟩

@[simp] theorem ciphertext?_setPhase (w : Worker) (t : Nat) (p : Phase) :
    (w.setPhase t p).ciphertext? = w.ciphertext? := by
  funext u
  simp only [ciphertext?, setPhase, List.getElem?_modify]
  cases w.submissions[u]? with
  | none => rfl
  | some s => by_cases h : t = u <;> simp [h]

theorem phase?_setPhase_self {w : Worker} {t : Nat} {p q : Phase} (h : w.phase? t = some q) :
    (w.setPhase t p).phase? t = some p := by
  obtain ⟨c, hc⟩ := phase?_eq_some_iff.mp h
  simp [phase?, setPhase, hc]

theorem phase?_setPhase_of_ne {w : Worker} {t u : Nat} (p : Phase) (h : u ≠ t) :
    (w.setPhase t p).phase? u = w.phase? u := by
  simp [phase?, setPhase, Ne.symm h]

/-! ## Moves -/

variable {service : Service} {w w' : Worker} {e : Event} {es : List Event}

/-- The ways in which an event can turn out. -/
inductive Move (service : Service) (w : Worker) : Event → Worker → Prop where
  /-- The worker is told its session. -/
  | tell {session : WorkerSession} (untold : w.state = .uninitialized)
    (accepting : w.accepting = true) :
    Move service w (.tell session)
      { w with inbox := w.inbox ++ [.start session], state := .initializing }
  /-- A caller comes. -/
  | submit {c : List UInt8} :
    Move service w (.submit c) { w with submissions := w.submissions ++ [{ ciphertext := c }] }
  /-- A caller sends its request to a worker that is ready. -/
  | send {t : Nat} {c : List UInt8} (waiting : w.submissions[t]? = some ⟨c, .waiting⟩)
    (ready : w.state = .ready) (accepting : w.accepting = true) :
    Move service w (.poll t)
      { w.setPhase t .sent with
        pending := w.pending ++ [t]
        inbox := w.inbox ++ [.decrypt t c]
        journal := w.journal.enter t w.routing }
  /-- A caller finds its worker gone before it has sent anything. -/
  | refuse {t : Nat} (waiting : w.phase? t = some .waiting)
    (closed : w.accepting = false ∨ w.state ≠ .ready ∧ w.routing = false) :
    Move service w (.poll t) (w.setPhase t (.done w.gone))
  /-- A caller takes its reply. -/
  | receive {t : Nat} {o : Outcome} (sent : w.phase? t = some .sent)
    (delivered : (t, o) ∈ w.delivered) :
    Move service w (.poll t) (w.setPhase t (.done (.ok o)))
  /-- A caller finds that no reply will come. -/
  | lose {t : Nat} (sent : w.phase? t = some .sent) (unanswered : t ∉ w.delivered.map Prod.fst)
    (unregistered : t ∉ w.pending) :
    Move service w (.poll t) (w.setPhase t (.done w.gone))
  /-- A caller gives up. -/
  | abandon {t : Nat} {p : Phase} (phase : w.phase? t = some p) (isOpen : p.isOpen = true) :
    Move service w (.abandon t)
      { w.setPhase t .withdrawn with pending := w.pending.filter (· ≠ t) }
  /-- The task takes its session from the inbox. -/
  | start {session : WorkerSession} {rest : List Envelope} (alive : w.alive = true)
    (idle : w.busy = none) (inbox : w.inbox = .start session :: rest) :
    Move service w .take
      { w with session := some session, inbox := rest, outbox := w.outbox ++ [.ready] }
  /-- The task answers a request without asking the service. -/
  | settle {t : Nat} {c : List UInt8} {rest : List Envelope} (alive : w.alive = true)
    (idle : w.busy = none) (inbox : w.inbox = .decrypt t c :: rest) :
    Move service w .take
      (post
        { w with inbox := rest, journal := { w.journal with taken := w.journal.taken ++ [t] } }
        t (decryptOne service w.session c))
  /-- The task asks the service. -/
  | ask {t : Nat} {c : List UInt8} {rest : List Envelope} (alive : w.alive = true)
    (idle : w.busy = none) (inbox : w.inbox = .decrypt t c :: rest) :
    Move service w .take
      { w with
        inbox := rest
        journal := { w.journal with taken := w.journal.taken ++ [t] }
        busy := some (t, c) }
  /-- The service answers. -/
  | finish {t : Nat} {c : List UInt8} (busy : w.busy = some (t, c)) :
    Move service w .finish
      (post { w with busy := none } t (decryptOne service w.session c))
  /-- The task dies. -/
  | die {b : Nat × List UInt8} (busy : w.busy = some b) :
    Move service w .die { w with alive := false, busy := none }
  /-- The inbox of a dead task takes no more requests. -/
  | shut (accepting : w.accepting = true) (dead : w.alive = false) :
    Move service w .shut { w with accepting := false, inbox := [] }
  /-- The router tells callers that the worker is ready. -/
  | announce {rest : List Posting} (routing : w.routing = true)
      (outbox : w.outbox = .ready :: rest) :
    Move service w .route { w with outbox := rest, state := .ready }
  /-- The router hands a reply to its caller. -/
  | deliver {t : Nat} {o : Outcome} {rest : List Posting} (routing : w.routing = true)
    (outbox : w.outbox = .result t o :: rest) (registered : t ∈ w.pending) :
    Move service w .route
      { w with
        outbox := rest
        pending := w.pending.filter (· ≠ t)
        delivered := w.delivered ++ [(t, o)] }
  /-- The router drops a reply that no one waits for. -/
  | drop {t : Nat} {o : Outcome} {rest : List Posting} (routing : w.routing = true)
    (outbox : w.outbox = .result t o :: rest) (unregistered : t ∉ w.pending) :
    Move service w .route { w with outbox := rest }
  /-- The router ends. -/
  | close (routing : w.routing = true) (dead : w.alive = false) (outbox : w.outbox = []) :
    Move service w .close { w with routing := false, pending := [] }

theorem mem_of_lookup {l : List (Nat × Outcome)} {t : Nat} {o : Outcome}
    (h : l.lookup t = some o) : (t, o) ∈ l := by
  obtain ⟨front, back, rfl, -⟩ := List.lookup_eq_some_iff.mp h
  simp

theorem not_mem_keys_of_lookup {l : List (Nat × Outcome)} {t : Nat}
    (h : l.lookup t = none) : t ∉ l.map Prod.fst := by
  intro hm
  obtain ⟨⟨u, o⟩, hu, rfl⟩ := List.mem_map.mp hm
  simpa using List.lookup_eq_none_iff.mp h _ hu

theorem move_of_poll {t : Nat} (h : w.poll t = some w') : Move service w (.poll t) w' := by
  unfold poll at h
  split at h
  · next c hs =>
    have hp : w.phase? t = some .waiting := phase?_eq_some_iff.mpr ⟨c, hs⟩
    split at h
    · next hready =>
      obtain rfl := Option.some.inj h
      unfold Worker.send
      split
      · next haccepting => exact .send hs hready haccepting
      · next hshut => exact .refuse hp (.inl (by simpa using hshut))
    · next hready =>
      split at h
      · cases h
      · next hr =>
        obtain rfl := Option.some.inj h
        exact .refuse hp (.inr ⟨hready, by simpa using hr⟩)
  · next c hs =>
    have hp : w.phase? t = some .sent := phase?_eq_some_iff.mpr ⟨c, hs⟩
    split at h
    · next o hl =>
      obtain rfl := Option.some.inj h
      exact .receive hp (mem_of_lookup hl)
    · next hl =>
      split at h
      · cases h
      · next hn =>
        obtain rfl := Option.some.inj h
        exact .lose hp (not_mem_keys_of_lookup hl) hn
  · cases h

theorem move_of_abandon {t : Nat} (h : w.abandon t = some w') :
    Move service w (.abandon t) w' := by
  unfold Worker.abandon at h
  split at h
  · next c hs =>
    obtain rfl := Option.some.inj h
    exact .abandon (phase?_eq_some_iff.mpr ⟨c, hs⟩) rfl
  · next c hs =>
    obtain rfl := Option.some.inj h
    exact .abandon (phase?_eq_some_iff.mpr ⟨c, hs⟩) rfl
  · cases h

theorem move_of_take (h : w.take = some w') : Move service w .take w' := by
  unfold take at h
  split at h
  · next hc =>
    obtain ⟨halive, hidle⟩ := hc
    split at h
    · cases h
    · next session rest hi =>
      obtain rfl := Option.some.inj h
      exact .start halive hidle hi
    · next t c rest hi =>
      dsimp only at h
      split at h
      · next o hp =>
        obtain rfl := Option.some.inj h
        have ho : decryptOne service w.session c = o := by rw [decryptOne, hp]
        exact ho ▸ .settle halive hidle hi
      · obtain rfl := Option.some.inj h
        exact .ask halive hidle hi
  · cases h

theorem move_of_route (h : w.route = some w') : Move service w .route w' := by
  unfold route at h
  split at h
  · next hr =>
    split at h
    · cases h
    · next rest ho =>
      obtain rfl := Option.some.inj h
      exact .announce hr ho
    · next t o rest ho =>
      split at h
      · next hp =>
        obtain rfl := Option.some.inj h
        exact .deliver hr ho hp
      · next hp =>
        obtain rfl := Option.some.inj h
        exact .drop hr ho hp
  · cases h

/-- A caller that has only waited finds a worker that takes no requests. -/
theorem poll_eq_of_waiting {t : Nat} {c : List UInt8} (hs : w.submissions[t]? = some ⟨c, .waiting⟩)
    (hready : w.state = .ready) (hshut : w.accepting = false) :
    w.poll t = some (w.setPhase t (.done w.gone)) := by
  simp [poll, hs, hready, Worker.send, hshut, gone]

/-- A caller that is not registered any more takes its reply, or finds that there is none. -/
theorem poll_eq_of_sent {t : Nat} {c : List UInt8} (hs : w.submissions[t]? = some ⟨c, .sent⟩)
    (ht : t ∉ w.pending) :
    w.poll t = some (w.setPhase t
      (.done (((w.delivered.lookup t).map Except.ok).getD w.gone))) := by
  cases hl : w.delivered.lookup t with
  | none => simp [poll, hs, hl, ht, gone]
  | some o => simp [poll, hs, hl]

/-- **What an event changes is one of its moves.** -/
theorem Move.of_step (h : w.step service e = some w') : Move service w e w' := by
  cases e with
  | tell session =>
    simp only [step] at h
    split at h
    · next hc =>
      obtain rfl := Option.some.inj h
      exact .tell hc.1 hc.2
    · cases h
  | submit c =>
    obtain rfl := Option.some.inj h
    exact .submit
  | poll t => exact move_of_poll h
  | abandon t => exact move_of_abandon h
  | take => exact move_of_take h
  | finish =>
    simp only [step, Worker.finish] at h
    split at h
    · next t c hb =>
      obtain rfl := Option.some.inj h
      exact .finish hb
    · cases h
  | die =>
    simp only [step, Worker.die] at h
    split at h
    · next b hb =>
      obtain rfl := Option.some.inj h
      exact .die hb
    · cases h
  | shut =>
    simp only [step, Worker.shut] at h
    split at h
    · next hc =>
      obtain rfl := Option.some.inj h
      exact .shut hc.1 hc.2
    · cases h
  | route => exact move_of_route h
  | close =>
    simp only [step, Worker.close] at h
    split at h
    · next hc =>
      obtain rfl := Option.some.inj h
      exact .close hc.1 hc.2.1 hc.2.2
    · cases h

/-! ## Runs -/

theorem run_cons (w : Worker) (e : Event) (es : List Event) :
    w.run service (e :: es) = (w.step service e).bind fun w => w.run service es := rfl

theorem run_append (w : Worker) (es es' : List Event) :
    w.run service (es ++ es') = (w.run service es).bind fun w => w.run service es' := by
  induction es generalizing w with
  | nil => rfl
  | cons e es ih =>
    simp only [List.cons_append, run_cons, Option.bind_assoc]
    exact congrArg _ (funext ih)

/-- What every move keeps, every run keeps. -/
theorem invariant_run {P : Worker → Prop}
    (hmove : ∀ {w e w'}, P w → Move service w e w' → P w') (h : w.run service es = some w')
    (hw : P w) : P w' := by
  induction es generalizing w with
  | nil => exact Option.some.inj h ▸ hw
  | cons e es ih =>
    obtain ⟨v, hv, hr⟩ := Option.bind_eq_some_iff.mp h
    exact ih hr (hmove hw (.of_step hv))

theorem Move.index_eq (hm : Move service w e w') : w'.index = w.index := by
  cases hm <;> rfl

/-- A worker keeps its number. -/
theorem index_run (h : w.run service es = some w') : w'.index = w.index :=
  invariant_run (P := fun v => v.index = w.index) (fun hv hm => hm.index_eq.trans hv) h rfl

/-! ## The requests of a run -/

/-- The requests of the callers that come in a run. -/
def submitted (es : List Event) : List (List UInt8) :=
  es.filterMap fun
    | .submit c => some c
    | _ => none

/-- The request of a caller that comes in an event. -/
theorem Move.ciphertexts_eq (h : Move service w e w') :
    w'.submissions.map (·.ciphertext) = w.submissions.map (·.ciphertext) ++ submitted [e] := by
  have hset (t : Nat) (p : Phase) : (w.setPhase t p).submissions.map (·.ciphertext) =
      w.submissions.map (·.ciphertext) := by
    refine List.ext_getElem? fun u => ?_
    rw [List.getElem?_map, List.getElem?_map]
    exact congrFun (ciphertext?_setPhase w t p) u
  cases h with
  | submit => simp [submitted]
  | send => simpa [submitted] using hset _ _
  | refuse => simpa [submitted] using hset _ _
  | receive => simpa [submitted] using hset _ _
  | lose => simpa [submitted] using hset _ _
  | abandon => simpa [submitted] using hset _ _
  | _ => simp [submitted, post]

theorem submitted_append (es es' : List Event) :
    submitted (es ++ es') = submitted es ++ submitted es' :=
  List.filterMap_append

theorem ciphertexts_run (h : w.run service es = some w') :
    w'.submissions.map (·.ciphertext) = w.submissions.map (·.ciphertext) ++ submitted es := by
  induction es generalizing w with
  | nil => simp [Option.some.inj h, submitted]
  | cons e es ih =>
    obtain ⟨v, hv, hr⟩ := Option.bind_eq_some_iff.mp h
    rw [ih hr, (Move.of_step hv).ciphertexts_eq, List.append_assoc, ← submitted_append,
      List.singleton_append]

/-- The callers of a worker have the requests with which they came, in the same order. -/
theorem ciphertext?_run (hw : w.submissions = []) (h : w.run service es = some w') (t : Nat) :
    w'.ciphertext? t = (submitted es)[t]? := by
  rw [ciphertext?, ← List.getElem?_map, ciphertexts_run h, hw, List.map_nil, List.nil_append]

end Worker
end Clearance
