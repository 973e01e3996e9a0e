import Clearance.Proofs.Worker.Move

/-!
# The requests of a worker

A request stands in line from the moment it is sent: in the inbox, then with the service, then
among those answered.  The line keeps its order.  As long as the task lives no one leaves it; when
it dies, those that were answered are at the front, and what lies in the inbox is at the end.  The
session comes before all requests, so that every reply is an answer in that session.

## Main definitions

* `Worker.line`, `Worker.InLine`: the requests in line, first come first
* `Worker.Told`: the session comes before all requests
* `Worker.Faithful`: replies are answers to the requests of those who get them

## Main results

* `Worker.InLine.move`, `Worker.Told.move`, `Worker.Faithful.move`: every move keeps these
-/

namespace Clearance

/-- The ticket of a request in an inbox. -/
def Envelope.ticket? : Envelope → Option Nat
  | .start _ => none
  | .decrypt t _ => some t

namespace Worker

variable {service : Service} {session : WorkerSession} {w w' : Worker} {e : Event}
  {es : List Event} {t u : Nat}

/-! ## The line of requests -/

/-- The requests in line: those answered, the one being answered, those in the inbox. -/
def line (w : Worker) : List Nat :=
  w.journal.posted ++ (w.busy.map Prod.fst).toList ++ w.inbox.filterMap Envelope.ticket?

/-- The requests stand in line as they entered.  A dead task leaves out the one that it was
answering, and all others when it lets go of its inbox. -/
structure InLine (w : Worker) : Prop where
  line_eq : w.alive = true → w.line = w.journal.entered
  posted_prefix : w.journal.posted <+: w.journal.entered
  inbox_suffix : w.inbox.filterMap Envelope.ticket? <:+ w.journal.entered
  idle : w.alive = false → w.busy = none
  shut : w.accepting = false → w.alive = false ∧ w.inbox = []

theorem InLine.alive_of_busy (h : w.InLine) {b : Nat × List UInt8} (hb : w.busy = some b) :
    w.alive = true := by
  refine Bool.of_not_eq_false fun hd => ?_
  rw [h.idle hd] at hb
  cases hb

/-- The inbox of a task that is alive takes requests. -/
theorem InLine.accepting_of_alive (h : w.InLine) (ha : w.alive = true) : w.accepting = true := by
  refine Bool.of_not_eq_false fun hs => ?_
  rw [(h.shut hs).1] at ha
  cases ha

theorem InLine.entered_of_posted (h : w.InLine) (ht : t ∈ w.journal.posted) :
    t ∈ w.journal.entered :=
  h.posted_prefix.subset ht

/-- What lies in the inbox has entered it. -/
theorem InLine.entered_of_inbox (h : w.InLine) {c : List UInt8} (hc : .decrypt t c ∈ w.inbox) :
    t ∈ w.journal.entered :=
  h.inbox_suffix.subset (List.mem_filterMap.mpr ⟨_, hc, rfl⟩)

/-- A worker whose task is alive has its requests in line if they stand as they entered. -/
theorem InLine.of_alive (ha : w.alive = true) (hs : w.accepting = true)
    (h : w.line = w.journal.entered) : w.InLine where
  line_eq _ := h
  posted_prefix := ⟨_, by rw [← h, line, List.append_assoc]⟩
  inbox_suffix := ⟨_, h⟩
  idle hd := by rw [ha] at hd; cases hd
  shut hc := by rw [hs] at hc; cases hc

theorem InLine.move (h : w.InLine) (hm : Move service w e w') : w'.InLine := by
  -- all moves of the task need it alive, so that the line is all that has entered; callers can
  -- still send when it has died, and then their requests are the last to enter
  cases hm with
  | tell untold accepting =>
    refine ⟨fun alive => ?_, h.posted_prefix, ?_, h.idle, fun hs => ?_⟩
    · simpa [line, List.filterMap_cons, Envelope.ticket?] using h.line_eq alive
    · simpa [List.filterMap_cons, Envelope.ticket?] using h.inbox_suffix
    · cases accepting.symm.trans hs
  | send waiting ready accepting =>
    refine ⟨fun alive => ?_, h.posted_prefix.trans (List.prefix_append _ _), ?_, h.idle,
      fun hs => ?_⟩
    · simpa [line, setPhase, Envelope.ticket?] using congrArg (· ++ [_]) (h.line_eq alive)
    · obtain ⟨front, hfront⟩ := h.inbox_suffix
      exact ⟨front, by simp [Envelope.ticket?, ← hfront]⟩
    · cases accepting.symm.trans hs
  | start alive idle inbox =>
    refine .of_alive alive (h.accepting_of_alive alive) ?_
    simpa [line, inbox, List.filterMap_cons, Envelope.ticket?] using h.line_eq alive
  | settle alive idle inbox =>
    refine .of_alive alive (h.accepting_of_alive alive) ?_
    simpa [line, post, idle, inbox, Envelope.ticket?] using h.line_eq alive
  | ask alive idle inbox =>
    refine .of_alive alive (h.accepting_of_alive alive) ?_
    simpa [line, idle, inbox, Envelope.ticket?] using h.line_eq alive
  | finish busy =>
    have alive := h.alive_of_busy busy
    refine .of_alive alive (h.accepting_of_alive alive) ?_
    simpa [line, post, busy] using h.line_eq alive
  | die busy =>
    refine ⟨fun alive => absurd alive Bool.false_ne_true, h.posted_prefix, h.inbox_suffix,
      fun _ => rfl, fun hs => ⟨rfl, (h.shut hs).2⟩⟩
  | shut accepting dead =>
    refine ⟨fun alive => ?_, h.posted_prefix, List.nil_suffix, h.idle, fun _ => ⟨dead, rfl⟩⟩
    cases dead.symm.trans alive
  | _ => exact ⟨h.line_eq, h.posted_prefix, h.inbox_suffix, h.idle, h.shut⟩

/-! ## Requests and replies -/

/-- What a caller should get. -/
def answer (service : Service) (session : WorkerSession) (w : Worker) (t : Nat) : Option Outcome :=
  (w.ciphertext? t).map (decryptOne service (some session))

/-- Every request is that of its caller, and every reply the answer to it, whether it is on its way
or was handed over. -/
structure Faithful (service : Service) (session : WorkerSession) (w : Worker) : Prop where
  inbox : ∀ t c, .decrypt t c ∈ w.inbox → w.ciphertext? t = some c
  busy : ∀ t c, w.busy = some (t, c) → w.ciphertext? t = some c
  outbox : ∀ t o, .result t o ∈ w.outbox →
    w.answer service session t = some o ∧ t ∈ w.journal.posted
  delivered : ∀ t o, (t, o) ∈ w.delivered →
    w.answer service session t = some o ∧ t ∈ w.journal.posted

/-- Requests do not change. -/
theorem Move.ciphertext?_eq (hm : Move service w e w') {c : List UInt8}
    (h : w.ciphertext? t = some c) : w'.ciphertext? t = some c := by
  rw [ciphertext?, ← List.getElem?_map] at h ⊢
  rw [hm.ciphertexts_eq]
  exact List.getElem?_append_left (List.getElem?_eq_some_iff.mp h).1 ▸ h

/-- Fewer requests and replies under way are still faithful. -/
theorem Faithful.mono (h : w.Faithful service session)
    (hc : ∀ t c, w.ciphertext? t = some c → w'.ciphertext? t = some c)
    (hi : w'.inbox ⊆ w.inbox) (hb : ∀ b, w'.busy = some b → w.busy = some b)
    (ho : w'.outbox ⊆ w.outbox) (hd : w'.delivered ⊆ w.delivered)
    (hp : w.journal.posted ⊆ w'.journal.posted) : w'.Faithful service session := by
  have answers : ∀ t o, w.answer service session t = some o →
      w'.answer service session t = some o := by
    intro t o ha
    obtain ⟨c, hc', rfl⟩ := Option.map_eq_some_iff.mp ha
    rw [answer, hc t c hc', Option.map_some]
  refine ⟨fun t c hm => hc t c (h.inbox t c (hi hm)), fun t c hm => hc t c (h.busy t c (hb _ hm)),
    fun t o hm => ?_, fun t o hm => ?_⟩
  · obtain ⟨ha, hp'⟩ := h.outbox t o (ho hm)
    exact ⟨answers t o ha, hp hp'⟩
  · obtain ⟨ha, hp'⟩ := h.delivered t o (hd hm)
    exact ⟨answers t o ha, hp hp'⟩

/-- Posting the answer to a request. -/
theorem Faithful.post (h : w.Faithful service session) {c : List UInt8}
    (hc : w.ciphertext? t = some c) :
    (w.post t (decryptOne service (some session) c)).Faithful service session where
  inbox := h.inbox
  busy := h.busy
  outbox u o hm := by
    rcases List.mem_append.mp hm with hm | hm
    · obtain ⟨ha, hp⟩ := h.outbox u o hm
      exact ⟨ha, List.mem_append_left _ hp⟩
    · obtain ⟨rfl, rfl⟩ : u = t ∧ o = decryptOne service (some session) c := by simpa using hm
      have ha : w.answer service session u = some (decryptOne service (some session) c) := by
        rw [answer, hc, Option.map_some]
      exact ⟨ha, List.mem_append_right _ (by simp)⟩
  delivered u o hm := by
    obtain ⟨ha, hp⟩ := h.delivered u o hm
    exact ⟨ha, List.mem_append_left _ hp⟩

/-! ## The session comes first -/

/-- How far the task has come before it takes requests: its session is in the inbox, or it has
said that it is ready, or callers know that it is.  Only then there are requests. -/
inductive Told (session : WorkerSession) (w : Worker) : Prop where
  | unread (state : w.state = .initializing) (unset : w.session = none)
    (inbox : w.inbox = [.start session]) (idle : w.busy = none) (outbox : w.outbox = [])
    (alive : w.alive = true)
  | read (state : w.state = .initializing) (set : w.session = some session)
    (inbox : w.inbox = []) (idle : w.busy = none) (outbox : w.outbox = [.ready])
    (alive : w.alive = true)
  | ready (state : w.state = .ready) (set : w.session = some session)
    (inbox : ∀ s, .start s ∉ w.inbox) (outbox : .ready ∉ w.outbox)

theorem Told.move (h : w.Told session) (hm : Move service w e w') : w'.Told session := by
  cases h with
  | unread state unset inbox idle outbox alive =>
    cases hm with
    | start _ _ inbox' =>
      -- the first thing that the task takes is the session
      rw [inbox] at inbox'
      obtain ⟨rfl, rfl⟩ : session = _ ∧ [] = _ := by simpa using inbox'
      exact .read state rfl rfl idle (by simp [outbox]) alive
    | submit | refuse | receive | lose | abandon =>
      exact .unread state unset inbox idle outbox alive
    | _ => simp_all
  | read state set inbox idle outbox alive =>
    cases hm with
    | announce _ outbox' =>
      rw [outbox] at outbox'
      obtain rfl : [] = _ := by simpa using outbox'
      exact .ready rfl set (by simp [inbox]) (by simp)
    | submit | refuse | receive | lose | abandon =>
      exact .read state set inbox idle outbox alive
    | _ => simp_all
  | ready state set inbox outbox =>
    -- no second session comes: the worker was told one already, and the first has been read
    cases hm with
    | tell untold => simp [state] at untold
    | @start s _ _ _ inbox' =>
      have hs : .start s ∈ w.inbox := by simp [inbox']
      exact absurd hs (inbox s)
    | announce _ outbox' =>
      have hr : .ready ∈ w.outbox := by simp [outbox']
      exact absurd hr outbox
    | send => exact .ready state set (by simpa [setPhase] using inbox) outbox
    | settle _ _ inbox' =>
      refine .ready state set (fun s hs => inbox s ?_) (by simpa [post] using outbox)
      rw [inbox']
      exact List.mem_cons_of_mem _ hs
    | ask _ _ inbox' =>
      refine .ready state set (fun s hs => inbox s ?_) outbox
      rw [inbox']
      exact List.mem_cons_of_mem _ hs
    | finish => exact .ready state set inbox (by simpa [post] using outbox)
    | shut => exact .ready state set (by simp) outbox
    | deliver _ outbox' | drop _ outbox' =>
      refine .ready state set inbox fun hr => outbox ?_
      rw [outbox']
      exact List.mem_cons_of_mem _ hr
    | submit | refuse | receive | lose | abandon | die | close =>
      exact .ready state set inbox outbox

/-- A task that is asked to decrypt has its session. -/
theorem Told.session_of_mem (h : w.Told session) {c : List UInt8} (hm : .decrypt t c ∈ w.inbox) :
    w.session = some session := by
  cases h with
  | unread _ _ inbox => simp [inbox] at hm
  | read _ set => exact set
  | ready _ set => exact set

/-- A task that asks the service has its session. -/
theorem Told.session_of_busy (h : w.Told session) {b : Nat × List UInt8} (hb : w.busy = some b) :
    w.session = some session := by
  cases h with
  | unread _ _ _ idle => simp [idle] at hb
  | read _ set => exact set
  | ready _ set => exact set

/-- A dead worker was ready once. -/
theorem Told.ready_of_dead (h : w.Told session) (hd : w.alive = false) : w.state = .ready := by
  cases h with
  | unread _ _ _ _ _ alive => simp [alive] at hd
  | read _ _ _ _ _ alive => simp [alive] at hd
  | ready state => exact state

/-- A worker that was told its session is not told another. -/
theorem Told.state_ne (h : w.Told session) : w.state ≠ .uninitialized := by
  cases h with
  | unread state | read state | ready state => simp [state]

theorem Faithful.move (h : w.Faithful service session) (ht : w.Told session)
    (hm : Move service w e w') : w'.Faithful service session := by
  have hc : ∀ t c, w.ciphertext? t = some c → w'.ciphertext? t = some c := fun _ _ =>
    hm.ciphertext?_eq
  cases hm with
  | tell untold => exact absurd untold ht.state_ne
  | @send t c waiting =>
    have own : w.ciphertext? t = some c := by rw [ciphertext?, waiting, Option.map_some]
    have old : (w.setPhase t .sent).Faithful service session :=
      h.mono (by simp) (fun _ hi => hi) (fun _ hb => hb) (fun _ ho => ho) (fun _ hd => hd)
        (fun _ hp => hp)
    refine ⟨fun u d hi => hc u d ?_, old.busy, old.outbox, old.delivered⟩
    rcases List.mem_append.mp hi with hi | hi
    · exact h.inbox u d hi
    · obtain ⟨rfl, rfl⟩ : u = t ∧ d = c := by simpa using hi
      exact own
  | start _ _ inbox =>
    refine ⟨fun t c hi => h.inbox t c ?_, h.busy, fun t o ho => h.outbox t o ?_, h.delivered⟩
    · exact inbox ▸ List.mem_cons_of_mem _ hi
    · simpa using ho
  | @settle t c rest _ _ inbox =>
    -- the task answers in the session that it was told, which is the one of the worker
    have hmem : .decrypt t c ∈ w.inbox := by simp [inbox]
    have ho : decryptOne service w.session c = decryptOne service (some session) c := by
      rw [ht.session_of_mem hmem]
    rw [ho]
    refine Faithful.post ?_ (h.inbox t c hmem)
    refine h.mono (fun _ _ hc => hc) (fun _ hi => ?_) (fun _ hb => hb) (fun _ ho => ho)
      (fun _ hd => hd) fun _ hp => hp
    exact inbox ▸ List.mem_cons_of_mem _ hi
  | @ask t c rest _ _ inbox =>
    refine ⟨fun u d hi => h.inbox u d ?_, fun u d hb => ?_, h.outbox, h.delivered⟩
    · exact inbox ▸ List.mem_cons_of_mem _ hi
    · obtain ⟨rfl, rfl⟩ : t = u ∧ c = d := by simpa using hb
      exact h.inbox t c (by simp [inbox])
  | @finish t c busy =>
    have ho : decryptOne service w.session c = decryptOne service (some session) c := by
      rw [ht.session_of_busy busy]
    rw [ho]
    refine Faithful.post ?_ (h.busy t c busy)
    exact h.mono (fun _ _ hc => hc) (fun _ hi => hi) (fun _ hb => by cases hb) (fun _ ho => ho)
      (fun _ hd => hd) fun _ hp => hp
  | die => exact ⟨h.inbox, by simp, h.outbox, h.delivered⟩
  | shut => exact ⟨by simp, h.busy, h.outbox, h.delivered⟩
  | announce _ outbox | drop _ outbox =>
    refine ⟨h.inbox, h.busy, fun u o ho => h.outbox u o ?_, h.delivered⟩
    exact outbox ▸ List.mem_cons_of_mem _ ho
  | @deliver t o rest _ outbox =>
    refine ⟨h.inbox, h.busy, fun u o' ho => h.outbox u o' ?_, fun u o' hd => ?_⟩
    · exact outbox ▸ List.mem_cons_of_mem _ ho
    · rcases List.mem_append.mp hd with hd | hd
      · exact h.delivered u o' hd
      · obtain ⟨rfl, rfl⟩ : u = t ∧ o' = o := by simpa using hd
        exact h.outbox u o' (by simp [outbox])
  | submit | refuse | receive | lose | abandon | close =>
    exact h.mono hc (fun _ hi => hi) (fun _ hb => hb) (fun _ ho => ho) (fun _ hd => hd)
      (fun _ hp => hp)

end Worker
end Clearance
