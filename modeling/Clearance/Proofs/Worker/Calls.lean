import Mathlib.Data.List.Induction
import Clearance.Proofs.Worker.Sound

/-!
# The calls of a worker to the service

The task of a worker asks the service for one request at a time, and takes no other request while it
waits for the answer.  So the calls of a run stand one after the other: each returns before the next
one begins.  The last may not have returned yet, and then nothing behind it in the line moves; or it
broke off when the task died, and then no other ever begins.

Requests are taken in the order in which they entered, answered in the order in which they were
taken, and handed on in the order in which they were answered.

## Main definitions

* `Worker.Call`, `Worker.calls`: the calls of a run, with their beginnings and their ends
* `Worker.Call.inProgress`: the calls that have begun and not ended
* `Worker.OneByOne`: calls that stand one after the other
* `Worker.InTurn`: requests are served in the order of the line

## Main results

* `Worker.oneByOne_run`, `Worker.OneByOne.inProgress_eq`: the calls of a run are such
* `Worker.begun_sublist_taken`: they begin in the order in which the requests were taken
* `Worker.inTurn_run`: requests are served in turn, in every run
-/

namespace Clearance

/-- The ticket of the request that a posting answers. -/
def Posting.ticket? : Posting → Option Nat
  | .ready => none
  | .result t _ => some t

namespace Worker

variable {service : Service} {session : WorkerSession} {w w' : Worker} {e : Event}
  {es es' : List Event} {l : List Call} {t : Nat}

/-! ## Calls -/

/-- What happens to a call of the service. -/
inductive Call where
  /-- The task asks the service for a request. -/
  | begun (ticket : Nat)
  /-- The service has answered. -/
  | returned (ticket : Nat)
  /-- The task has died while it waited. -/
  | broken (ticket : Nat)
  deriving DecidableEq, Repr

/-- The ticket of a call that begins. -/
def Call.begun? : Call → Option Nat
  | .begun t => some t
  | .returned _ | .broken _ => none

/-- The requests for which the service is being asked, after some calls have begun and ended. -/
def Call.inProgress (l : List Call) : List Nat :=
  l.foldl (fun asked call =>
    match call with
    | .begun t => asked ++ [t]
    | .returned t | .broken t => asked.erase t) []

/-- What an event does to the calls of the service. -/
def callsOf (w : Worker) : Event → List Call
  | .take =>
    match w.inbox with
    | .decrypt t c :: _ => if (prepare w.session c).isOk then [.begun t] else []
    | _ => []
  | .finish => (w.busy.map fun b => Call.returned b.1).toList
  | .die => (w.busy.map fun b => Call.broken b.1).toList
  | _ => []

/-- The calls of the service in a run. -/
def calls (service : Service) (w : Worker) : List Event → List Call
  | [] => []
  | e :: rest => w.callsOf e ++ ((w.step service e).map fun w => w.calls service rest).getD []

theorem calls_cons (h : w.step service e = some w') (es : List Event) :
    w.calls service (e :: es) = w.callsOf e ++ w'.calls service es := by
  rw [calls, h, Option.map_some, Option.getD_some]

/-- A call that has returned. -/
def exchange (t : Nat) : List Call := [.begun t, .returned t]

/-- The calls stand one after the other: all of them have returned, but the last one may be in
progress, or have broken off with the task. -/
inductive OneByOne (w : Worker) : List Call → Prop where
  | idle (served : List Nat) (idle : w.busy = none) : OneByOne w (served.flatMap exchange)
  | asking (served : List Nat) {t : Nat} {c : List UInt8} (busy : w.busy = some (t, c)) :
    OneByOne w (served.flatMap exchange ++ [.begun t])
  | dead (served : List Nat) (t : Nat) (idle : w.busy = none) (dead : w.alive = false) :
    OneByOne w (served.flatMap exchange ++ [.begun t, .broken t])

/-- What a step does to the calls.  It leaves them alone, or begins one, or ends the one that is in
progress. -/
theorem calls_cases (h : w.step service e = some w') :
    (w.callsOf e = [] ∧ w'.busy = w.busy ∧ w'.alive = w.alive ∧
      w.journal.taken <+: w'.journal.taken) ∨
    (∃ t c, w.callsOf e = [.begun t] ∧ w.busy = none ∧ w.alive = true ∧ w'.busy = some (t, c) ∧
      w'.journal.taken = w.journal.taken ++ [t]) ∨
    (∃ t c, w.callsOf e = [.returned t] ∧ w.busy = some (t, c) ∧ w'.busy = none ∧
      w'.journal.taken = w.journal.taken) ∨
    (∃ t c, w.callsOf e = [.broken t] ∧ w.busy = some (t, c) ∧ w'.busy = none ∧
      w'.alive = false ∧ w'.journal.taken = w.journal.taken) := by
  cases e with
  | take =>
    -- whether the service is asked depends on the request, which a move does not tell
    simp only [step, take] at h
    split at h
    · next hc =>
      obtain ⟨alive, idle⟩ := hc
      split at h
      · cases h
      · next inbox =>
        obtain rfl := Option.some.inj h
        exact .inl ⟨by simp [callsOf, inbox], rfl, rfl, List.prefix_refl _⟩
      · next t c rest inbox =>
        split at h
        · next o ho =>
          obtain rfl := Option.some.inj h
          refine .inl ⟨?_, rfl, rfl, List.prefix_append _ _⟩
          simp [callsOf, inbox, ho, Except.isOk, Except.toBool]
        · next call hcall =>
          obtain rfl := Option.some.inj h
          refine .inr (.inl ⟨t, c, ?_, idle, alive, rfl, rfl⟩)
          simp [callsOf, inbox, hcall, Except.isOk, Except.toBool]
    · cases h
  | finish =>
    cases Move.of_step h with
    | @finish t c busy => exact .inr (.inr (.inl ⟨t, c, by simp [callsOf, busy], busy, rfl, rfl⟩))
  | die =>
    cases Move.of_step h with
    | @die b busy =>
      exact .inr (.inr (.inr ⟨b.1, b.2, by simp [callsOf, busy], busy, rfl, rfl, rfl⟩))
  | tell | submit | poll | abandon | shut | route | close =>
    cases Move.of_step h <;> exact .inl ⟨rfl, rfl, rfl, List.prefix_refl _⟩

theorem OneByOne.of_eq (h : w.OneByOne l) (hb : w'.busy = w.busy) (ha : w'.alive = w.alive) :
    w'.OneByOne l := by
  cases h with
  | idle served idle => exact .idle served (hb.trans idle)
  | asking served busy => exact .asking served (hb.trans busy)
  | dead served t idle dead => exact .dead served t (hb.trans idle) (ha.trans dead)

/-- The calls before one that is in progress have all returned. -/
theorem OneByOne.eq_of_busy (h : w.OneByOne l) {c : List UInt8} (hb : w.busy = some (t, c)) :
    ∃ served : List Nat, l = served.flatMap exchange ++ [.begun t] := by
  cases h with
  | idle served idle | dead served u idle =>
    rw [idle] at hb
    cases hb
  | asking served busy =>
    rw [busy] at hb
    obtain ⟨rfl, rfl⟩ := Prod.mk.inj (Option.some.inj hb)
    exact ⟨served, rfl⟩

/-- **A call returns before the next one begins.** -/
theorem OneByOne.step (h : w.OneByOne l) (hstep : w.step service e = some w') :
    w'.OneByOne (l ++ w.callsOf e) := by
  rcases calls_cases hstep with ⟨hc, hb, ha, -⟩ | ⟨t, c, hc, idle, alive, hb, -⟩ |
    ⟨t, c, hc, busy, hb, -⟩ | ⟨t, c, hc, busy, hb, ha, -⟩
  · rw [hc, List.append_nil]
    exact h.of_eq hb ha
  · rw [hc]
    cases h with
    | idle served => exact .asking served hb
    | asking served busy =>
      rw [idle] at busy
      cases busy
    | dead served u _ dead =>
      rw [alive] at dead
      cases dead
  · -- the call that returns is the last one
    obtain ⟨served, rfl⟩ := h.eq_of_busy busy
    have hl : served.flatMap exchange ++ [.begun t] ++ [.returned t] =
        (served ++ [t]).flatMap exchange := by
      simp [exchange]
    rw [hc, hl]
    exact .idle _ hb
  · obtain ⟨served, rfl⟩ := h.eq_of_busy busy
    rw [hc, List.append_assoc]
    exact .dead served t hb ha

theorem OneByOne.run (h : w.OneByOne l) (hrun : w.run service es = some w') :
    w'.OneByOne (l ++ w.calls service es) := by
  induction es generalizing w l with
  | nil =>
    obtain rfl := Option.some.inj hrun
    rwa [calls, List.append_nil]
  | cons e es ih =>
    obtain ⟨v, hv, hr⟩ := Option.bind_eq_some_iff.mp hrun
    rw [calls_cons hv, ← List.append_assoc]
    exact ih (h.step hv) hr

/-- **The calls of a run stand one after the other.** -/
theorem oneByOne_run {index : Nat} (h : (spawn index session).run service es = some w) :
    w.OneByOne ((spawn index session).calls service es) :=
  OneByOne.run (l := []) (.idle [] rfl) h

theorem Call.inProgress_append (l l' : List Call) :
    inProgress (l ++ l') = l'.foldl (fun asked call =>
      match call with
      | .begun t => asked ++ [t]
      | .returned t | .broken t => asked.erase t) (inProgress l) :=
  List.foldl_append

theorem Call.inProgress_flatMap_exchange (served : List Nat) :
    inProgress (served.flatMap exchange) = [] := by
  induction served using List.reverseRecOn with
  | nil => rfl
  | append_singleton served t ih =>
    rw [List.flatMap_append, inProgress_append, ih]
    simp [exchange]

/-- **The only call in progress is the one for which the task waits.** -/
theorem OneByOne.inProgress_eq (h : w.OneByOne l) :
    Call.inProgress l = (w.busy.map Prod.fst).toList := by
  cases h with
  | idle served idle => rw [Call.inProgress_flatMap_exchange, idle]; rfl
  | asking served busy =>
    rw [Call.inProgress_append, Call.inProgress_flatMap_exchange, busy]
    rfl
  | dead served t idle =>
    rw [Call.inProgress_append, Call.inProgress_flatMap_exchange, idle]
    simp

theorem OneByOne.length_inProgress_le (h : w.OneByOne l) : (Call.inProgress l).length ≤ 1 := by
  rw [h.inProgress_eq]
  cases w.busy <;> simp

/-- Calls begin in the order in which their requests are taken. -/
theorem exists_taken_run (h : w.run service es = some w') :
    ∃ taken, w'.journal.taken = w.journal.taken ++ taken ∧
      ((w.calls service es).filterMap Call.begun?).Sublist taken := by
  induction es generalizing w with
  | nil =>
    obtain rfl := Option.some.inj h
    exact ⟨[], (List.append_nil _).symm, List.Sublist.slnil⟩
  | cons e es ih =>
    obtain ⟨v, hv, hr⟩ := Option.bind_eq_some_iff.mp h
    obtain ⟨later, hlater, hsub⟩ := ih hr
    -- what the first step takes, and the call that it begins if it does
    have hfirst : ∃ first, v.journal.taken = w.journal.taken ++ first ∧
        ((w.callsOf e).filterMap Call.begun?).Sublist first := by
      rcases calls_cases hv with ⟨hc, -, -, first, htaken⟩ | ⟨t, c, hc, -, -, -, htaken⟩ |
        ⟨t, c, hc, -, -, htaken⟩ | ⟨t, c, hc, -, -, -, htaken⟩
      · exact ⟨first, htaken.symm, by simp [hc]⟩
      · exact ⟨[t], htaken, by simp [hc, Call.begun?]⟩
      · exact ⟨[], by simp [htaken], by simp [hc, Call.begun?]⟩
      · exact ⟨[], by simp [htaken], by simp [hc, Call.begun?]⟩
    obtain ⟨first, htaken, hsub'⟩ := hfirst
    refine ⟨first ++ later, by rw [hlater, htaken, List.append_assoc], ?_⟩
    rw [calls_cons hv, List.filterMap_append]
    exact hsub'.append hsub

/-- **Calls begin in the order in which the requests were taken.** -/
theorem begun_sublist_taken {index : Nat} (h : (spawn index session).run service es = some w) :
    (((spawn index session).calls service es).filterMap Call.begun?).Sublist w.journal.taken := by
  obtain ⟨taken, htaken, hsub⟩ := exists_taken_run h
  rw [htaken]
  exact hsub

/-! ## Requests in turn -/

/-- Requests are served in the order of the line: those that were taken have been answered, but for
the one that the service is asked for; those that were not taken are in the inbox, in the order in
which they came, until a dead task lets go of it.  A dead task leaves one request without an answer
that it has taken, and all that it has not.  Answers are handed on in the order in which they were
posted. -/
structure InTurn (w : Worker) : Prop where
  serving : w.alive = true →
    w.journal.taken = w.journal.posted ++ (w.busy.map Prod.fst).toList ∧
      w.journal.entered = w.journal.taken ++ w.inbox.filterMap Envelope.ticket?
  broken : w.alive = false →
    (∃ t, w.journal.taken = w.journal.posted ++ [t]) ∧ w.journal.taken <+: w.journal.entered
  waiting : w.accepting = true →
    w.journal.entered = w.journal.taken ++ w.inbox.filterMap Envelope.ticket?
  routed : ∃ routed, w.journal.posted = routed ++ w.outbox.filterMap Posting.ticket? ∧
    (w.delivered.map Prod.fst).Sublist routed

/-- Requests are taken in the order in which they entered. -/
theorem InTurn.taken_prefix (h : w.InTurn) : w.journal.taken <+: w.journal.entered := by
  cases ha : w.alive with
  | true => exact ⟨_, (h.serving ha).2.symm⟩
  | false => exact (h.broken ha).2

/-- Requests are answered in the order in which they were taken. -/
theorem InTurn.posted_prefix (h : w.InTurn) : w.journal.posted <+: w.journal.taken := by
  cases ha : w.alive with
  | true => exact ⟨_, (h.serving ha).1.symm⟩
  | false =>
    obtain ⟨⟨t, ht⟩, -⟩ := h.broken ha
    exact ⟨[t], ht.symm⟩

/-- **The task takes the next request only when all that it has taken are answered.** -/
theorem InTurn.of_take (h : w.InTurn) (ht : w.step service .take = some w') :
    w.busy = none ∧ w.journal.posted = w.journal.taken := by
  have hidle : w.alive = true ∧ w.busy = none := by
    cases Move.of_step ht with
    | start alive idle | settle alive idle | ask alive idle => exact ⟨alive, idle⟩
  obtain ⟨alive, idle⟩ := hidle
  have htaken := (h.serving alive).1
  rw [idle, Option.map_none, Option.toList_none, List.append_nil] at htaken
  exact ⟨idle, htaken.symm⟩

theorem InTurn.of_alive (ha : w.alive = true)
    (hs : w.journal.taken = w.journal.posted ++ (w.busy.map Prod.fst).toList)
    (he : w.journal.entered = w.journal.taken ++ w.inbox.filterMap Envelope.ticket?)
    (hr : ∃ routed, w.journal.posted = routed ++ w.outbox.filterMap Posting.ticket? ∧
      (w.delivered.map Prod.fst).Sublist routed) : w.InTurn where
  serving _ := ⟨hs, he⟩
  broken hd := by
    rw [ha] at hd
    cases hd
  waiting _ := he
  routed := hr

/-- A reply that is posted comes behind those that are to be handed on. -/
theorem InTurn.routed_post (h : w.InTurn) (t : Nat) (o : Outcome) :
    ∃ routed, (w.post t o).journal.posted =
        routed ++ (w.post t o).outbox.filterMap Posting.ticket? ∧
      (w.delivered.map Prod.fst).Sublist routed := by
  obtain ⟨routed, hposted, hsub⟩ := h.routed
  exact ⟨routed, by simp [post, hposted, Posting.ticket?], hsub⟩

theorem InTurn.move (h : w.InTurn) (hl : w.InLine) (hm : Move service w e w') : w'.InTurn := by
  -- the moves of the task shift the three parts of the line; what comes in is its end, whether the
  -- task is alive or not
  cases hm with
  | @tell session untold accepting =>
    have he : w.journal.entered =
        w.journal.taken ++ (w.inbox ++ [Envelope.start session]).filterMap Envelope.ticket? := by
      simpa [List.filterMap_cons, Envelope.ticket?] using h.waiting accepting
    exact ⟨fun alive => ⟨(h.serving alive).1, he⟩, h.broken, fun _ => he, h.routed⟩
  | @send t c waiting ready accepting =>
    have he : w.journal.entered ++ [t] =
        w.journal.taken ++ (w.inbox ++ [Envelope.decrypt t c]).filterMap Envelope.ticket? := by
      simp [Envelope.ticket?, h.waiting accepting]
    refine ⟨fun alive => ⟨(h.serving alive).1, he⟩, fun dead => ?_, fun _ => he, h.routed⟩
    obtain ⟨hlast, hprefix⟩ := h.broken dead
    exact ⟨hlast, hprefix.trans (List.prefix_append _ _)⟩
  | start alive idle inbox =>
    obtain ⟨hs, he⟩ := h.serving alive
    refine .of_alive alive hs ?_ ?_
    · simpa [inbox, List.filterMap_cons, Envelope.ticket?] using he
    · simpa [List.filterMap_cons, Posting.ticket?] using h.routed
  | settle alive idle inbox =>
    obtain ⟨hs, he⟩ := h.serving alive
    refine .of_alive alive ?_ ?_ (h.routed_post _ _)
    · simp [post, idle, hs]
    · simp [post, he, inbox, Envelope.ticket?]
  | ask alive idle inbox =>
    obtain ⟨hs, he⟩ := h.serving alive
    refine .of_alive alive ?_ ?_ h.routed
    · simp [idle, hs]
    · simp [he, inbox, Envelope.ticket?]
  | finish busy =>
    have alive := hl.alive_of_busy busy
    obtain ⟨hs, he⟩ := h.serving alive
    refine .of_alive alive ?_ he (h.routed_post _ _)
    simp [post, busy, hs]
  | @die b busy =>
    -- the request in progress stays without an answer
    obtain ⟨hs, he⟩ := h.serving (hl.alive_of_busy busy)
    exact ⟨fun alive => absurd alive Bool.false_ne_true,
      fun _ => ⟨⟨b.1, by simp [hs, busy]⟩, _, he.symm⟩, h.waiting, h.routed⟩
  | shut accepting dead =>
    refine ⟨fun alive => ?_, h.broken, fun still => absurd still Bool.false_ne_true, h.routed⟩
    cases dead.symm.trans alive
  | announce _ outbox =>
    refine ⟨h.serving, h.broken, h.waiting, ?_⟩
    simpa [outbox, List.filterMap_cons, Posting.ticket?] using h.routed
  | @deliver t o rest _ outbox =>
    obtain ⟨routed, hposted, hsub⟩ := h.routed
    refine ⟨h.serving, h.broken, h.waiting, routed ++ [t], ?_, ?_⟩
    · simp [hposted, outbox, Posting.ticket?]
    · rw [List.map_append]
      exact hsub.append (List.Sublist.refl _)
  | @drop t o rest _ outbox =>
    obtain ⟨routed, hposted, hsub⟩ := h.routed
    refine ⟨h.serving, h.broken, h.waiting, routed ++ [t], ?_, ?_⟩
    · simp [hposted, outbox, Posting.ticket?]
    · exact hsub.trans (List.sublist_append_left _ _)
  | submit | refuse | receive | lose | abandon | close =>
    exact ⟨h.serving, h.broken, h.waiting, h.routed⟩

/-- **Requests are served in turn.** -/
theorem inTurn_run {index : Nat} (h : (spawn index session).run service es = some w) :
    w.InTurn := by
  have hnew : (spawn index session).InLine ∧ (spawn index session).InTurn :=
    ⟨.of_alive rfl rfl rfl, .of_alive rfl rfl rfl ⟨[], rfl, List.Sublist.slnil⟩⟩
  exact (invariant_run (P := fun v => v.InLine ∧ v.InTurn)
    (fun hv hm => ⟨hv.1.move hm, hv.2.move hv.1 hm⟩) h hnew).2

end Worker
end Clearance
