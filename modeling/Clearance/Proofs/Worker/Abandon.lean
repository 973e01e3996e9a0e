import Clearance.Proofs.Worker.Calls

/-!
# Callers that give up

A caller that gives up takes back its registration and nothing else.  A request that it has sent
stays in the line, is taken in its turn, and the service is asked for it as for any other; only the
reply finds no one.  A request that it has not sent is never sent.

The first is a statement on two runs: erase from a worker all that concerns one caller, and whatever
happens without that caller leads to the same state.

## Main definitions

* `Worker.without`: a worker as all but one of its callers know it

## Main results

* `Worker.step_without`, `Worker.run_without`: what the others do does not depend on that caller
* `Worker.run_abandon`: a run goes on in the same way whether a caller gives up or not
* `Worker.not_entered_of_abandon`: a request that was not sent when its caller gave up never is
-/

namespace Clearance.Worker

variable {service : Service} {w w' w'' : Worker} {e : Event} {es : List Event} {t u : Nat}

/-- A worker as all of its callers but one know it: that one has left, is not registered, and
nothing was handed to it. -/
def without (w : Worker) (t : Nat) : Worker :=
  { w.setPhase t .withdrawn with
    pending := w.pending.filter (· ≠ t)
    delivered := w.delivered.filter (·.1 ≠ t) }

section Fields

variable (w : Worker) (t : Nat)

@[simp] theorem index_without : (w.without t).index = w.index := rfl

@[simp] theorem state_without : (w.without t).state = w.state := rfl

@[simp] theorem session_without : (w.without t).session = w.session := rfl

@[simp] theorem inbox_without : (w.without t).inbox = w.inbox := rfl

@[simp] theorem accepting_without : (w.without t).accepting = w.accepting := rfl

@[simp] theorem busy_without : (w.without t).busy = w.busy := rfl

@[simp] theorem outbox_without : (w.without t).outbox = w.outbox := rfl

@[simp] theorem alive_without : (w.without t).alive = w.alive := rfl

@[simp] theorem routing_without : (w.without t).routing = w.routing := rfl

@[simp] theorem journal_without : (w.without t).journal = w.journal := rfl

end Fields

/-! ## The other callers -/

theorem lookup_filter_ne (l : List (Nat × Outcome)) (h : u ≠ t) :
    (l.filter (·.1 ≠ t)).lookup u = l.lookup u := by
  induction l with
  | nil => rfl
  | cons d l ih =>
    obtain ⟨v, o⟩ := d
    by_cases hv : v = t
    · subst hv
      have hne : (u == v) = false := by simpa using h
      simpa [List.lookup_cons, hne] using ih
    · simp only [ne_eq, hv, not_false_eq_true, decide_true, List.filter_cons_of_pos,
        List.lookup_cons]
      rw [← ih]

theorem filter_ne_comm (l : List Nat) (t u : Nat) :
    (l.filter (· ≠ t)).filter (· ≠ u) = (l.filter (· ≠ u)).filter (· ≠ t) := by
  simp only [List.filter_filter]
  exact List.filter_congr fun v _ => Bool.and_comm _ _

theorem getElem?_submissions_without (w : Worker) (h : u ≠ t) :
    (w.without t).submissions[u]? = w.submissions[u]? := by
  simp [without, setPhase, Ne.symm h]

theorem mem_pending_without (w : Worker) (h : u ≠ t) :
    u ∈ (w.without t).pending ↔ u ∈ w.pending := by
  simp [without, h]

theorem setPhase_without (w : Worker) (h : u ≠ t) (p : Phase) :
    (w.without t).setPhase u p = (w.setPhase u p).without t := by
  have hs : (w.submissions.modify t fun s => { s with phase := .withdrawn }).modify u
        (fun s => { s with phase := p }) =
      (w.submissions.modify u fun s => { s with phase := p }).modify t
        fun s => { s with phase := .withdrawn } :=
    List.modify_modify_ne _ _ _ (Ne.symm h)
  simp [without, setPhase, hs]

theorem send_without (w : Worker) (h : u ≠ t) (c : List UInt8) :
    (w.without t).send u c = (w.send u c).without t := by
  unfold Worker.send
  rw [accepting_without, index_without, setPhase_without w h, setPhase_without w h]
  split
  · simp [without, setPhase, h]
  · rfl

theorem poll_without (w : Worker) (h : u ≠ t) :
    (w.without t).poll u = (w.poll u).map (·.without t) := by
  have hlookup : (w.without t).delivered.lookup u = w.delivered.lookup u := lookup_filter_ne _ h
  unfold poll
  rw [getElem?_submissions_without w h, state_without, routing_without, index_without, hlookup]
  simp only [setPhase_without w h, send_without w h, mem_pending_without w h]
  -- both sides now ask the same questions
  rcases w.submissions[u]? with _ | ⟨c, _ | _ | _ | _⟩
  · rfl
  · by_cases hready : w.state = .ready
    · simp [hready]
    · cases hr : w.routing <;> simp [hready]
  · cases w.delivered.lookup u with
    | some o => rfl
    | none => by_cases hp : u ∈ w.pending <;> simp [hp]
  · rfl
  · rfl

theorem abandon_without (w : Worker) (h : u ≠ t) :
    (w.without t).abandon u = (w.abandon u).map (·.without t) := by
  have hpending : (w.without t).pending.filter (· ≠ u) =
      (w.pending.filter (· ≠ u)).filter (· ≠ t) := filter_ne_comm w.pending t u
  unfold Worker.abandon
  rw [getElem?_submissions_without w h, hpending, setPhase_without w h]
  rcases w.submissions[u]? with _ | ⟨c, _ | _ | _ | _⟩ <;> rfl

theorem take_without (w : Worker) (t : Nat) : (w.without t).take = w.take.map (·.without t) := by
  by_cases hc : w.alive ∧ w.busy = none
  · obtain ⟨alive, idle⟩ := hc
    simp only [take, alive_without, busy_without, inbox_without, session_without, alive, idle,
      and_self, if_true]
    cases w.inbox with
    | nil => rfl
    | cons envelope rest =>
      cases envelope with
      | start session => rfl
      | decrypt u c =>
        dsimp only
        cases prepare w.session c <;> rfl
  · simp [take, hc]

theorem route_without (w : Worker) (t : Nat) :
    (w.without t).route = w.route.map (·.without t) := by
  unfold Worker.route
  rw [routing_without, outbox_without]
  by_cases routing : w.routing = true
  · rw [if_pos routing, if_pos routing]
    rcases w.outbox with _ | ⟨_ | ⟨u, o⟩, rest⟩
    · rfl
    · rfl
    · by_cases hu : u = t
      · -- a reply for the caller itself is dropped on the one side, and erased on the other
        subst hu
        by_cases hp : u ∈ w.pending <;> simp [without, setPhase, hp]
      · by_cases hp : u ∈ w.pending
        · simpa [without, setPhase, hp, hu, -List.filter_filter] using filter_ne_comm w.pending t u
        · simp [without, setPhase, hp, hu]
  · rw [if_neg routing, if_neg routing]
    rfl

theorem submit_without (w : Worker) (c : List UInt8) (ht : t < w.submissions.length) :
    (w.without t).step service (.submit c) =
      (w.step service (.submit c)).map (·.without t) := by
  -- the new caller gets another ticket
  have hs : (w.submissions.modify t fun s => { s with phase := .withdrawn }) ++
        [({ ciphertext := c } : Submission)] =
      (w.submissions ++ [({ ciphertext := c } : Submission)]).modify t
        fun s => { s with phase := .withdrawn } := by
    refine List.ext_getElem? fun u => ?_
    by_cases hu : u = t
    · subst hu
      simp [List.getElem?_append, ht]
    · simp [List.getElem?_append, Ne.symm hu]
  simp [step, without, setPhase, hs]

/-- **What the others do does not depend on a caller that has come.** -/
theorem step_without (ht : t < w.submissions.length) (hpoll : e ≠ .poll t)
    (habandon : e ≠ .abandon t) :
    (w.without t).step service e = (w.step service e).map (·.without t) := by
  cases e with
  | tell session =>
    by_cases hc : w.state = .uninitialized ∧ w.accepting = true
    · simp [step, hc]
      rfl
    · simp [step, hc]
  | submit c => exact submit_without w c ht
  | poll u => exact poll_without w fun h => hpoll (by rw [h])
  | abandon u => exact abandon_without w fun h => habandon (by rw [h])
  | take => exact take_without w t
  | finish =>
    simp only [step, Worker.finish, busy_without, session_without]
    cases w.busy <;> rfl
  | die =>
    simp only [step, Worker.die, busy_without]
    cases w.busy <;> rfl
  | shut =>
    by_cases hc : w.accepting ∧ w.alive = false
    · simp [step, Worker.shut, hc]
      rfl
    · simp [step, Worker.shut, hc]
  | route => exact route_without w t
  | close =>
    by_cases hc : w.routing ∧ w.alive = false ∧ w.outbox = []
    · simp [step, Worker.close, hc]
      rfl
    · simp [step, Worker.close, hc]

theorem length_submissions_le (h : w.step service e = some w') :
    w.submissions.length ≤ w'.submissions.length := by
  have hlen := congrArg List.length (Move.of_step h).ciphertexts_eq
  simp only [List.length_map, List.length_append] at hlen
  omega

/-- **Nor does a run of the others.** -/
theorem run_without (ht : t < w.submissions.length) (hpoll : .poll t ∉ es)
    (habandon : .abandon t ∉ es) :
    (w.without t).run service es = (w.run service es).map (·.without t) := by
  induction es generalizing w with
  | nil => rfl
  | cons e es ih =>
    rw [List.mem_cons, not_or] at hpoll habandon
    rw [run_cons, run_cons, step_without ht (Ne.symm hpoll.1) (Ne.symm habandon.1)]
    cases hv : w.step service e with
    | none => rfl
    | some v =>
      exact ih (Nat.lt_of_lt_of_le ht (length_submissions_le hv)) hpoll.2 habandon.2

theorem callsOf_without (w : Worker) (t : Nat) (e : Event) :
    (w.without t).callsOf e = w.callsOf e := by
  cases e <;> rfl

theorem calls_without (ht : t < w.submissions.length) (hpoll : .poll t ∉ es)
    (habandon : .abandon t ∉ es) : (w.without t).calls service es = w.calls service es := by
  induction es generalizing w with
  | nil => rfl
  | cons e es ih =>
    rw [List.mem_cons, not_or] at hpoll habandon
    rw [calls, calls, callsOf_without, step_without ht (Ne.symm hpoll.1) (Ne.symm habandon.1)]
    cases hv : w.step service e with
    | none => rfl
    | some v =>
      have htv : t < v.submissions.length := Nat.lt_of_lt_of_le ht (length_submissions_le hv)
      simp only [Option.map_some, Option.getD_some, ih htv hpoll.2 habandon.2]

/-! ## The caller that gives up -/

/-- A caller that gives up changes nothing for the others. -/
theorem without_of_abandon (h : w.step service (.abandon t) = some w') :
    w'.without t = w.without t := by
  cases Move.of_step h with
  | abandon =>
    have hs : (w.submissions.modify t fun s => { s with phase := .withdrawn }).modify t
          (fun s => { s with phase := .withdrawn }) =
        w.submissions.modify t fun s => { s with phase := .withdrawn } :=
      List.modify_modify_eq _ _ _ _
    simp [without, setPhase, hs]

theorem lt_of_abandon (h : w.step service (.abandon t) = some w') :
    t < w.submissions.length := by
  cases Move.of_step h with
  | abandon phase =>
    obtain ⟨c, hc⟩ := phase?_eq_some_iff.mp phase
    exact (List.getElem?_eq_some_iff.mp hc).1

/-- **A run goes on in the same way whether a caller gives up or not**, for everyone but the caller
itself, of whom nothing is heard any more.  The service is asked for the same requests, and no call
is cut short. -/
theorem run_abandon (h : w.step service (.abandon t) = some w') (hpoll : .poll t ∉ es)
    (habandon : .abandon t ∉ es) :
    (w'.run service es).map (·.without t) = (w.run service es).map (·.without t) ∧
      w'.calls service es = w.calls service es := by
  have ht := lt_of_abandon h
  have ht' : t < w'.submissions.length := Nat.lt_of_lt_of_le ht (length_submissions_le h)
  constructor
  · rw [← run_without ht' hpoll habandon, ← run_without ht hpoll habandon, without_of_abandon h]
  · rw [← calls_without ht' hpoll habandon, ← calls_without ht hpoll habandon,
      without_of_abandon h]

/-- A caller that has left without sending has left for good. -/
theorem Move.not_entered (hm : Move service w e w') (hp : w.phase? t = some .withdrawn)
    (hn : t ∉ w.journal.entered) :
    w'.phase? t = some .withdrawn ∧ t ∉ w'.journal.entered := by
  -- it is no other caller's step that could bring it back, and its own steps are over
  have hset : ∀ {u : Nat} {p q : Phase}, w.phase? u = some q → q ≠ .withdrawn →
      (w.setPhase u p).phase? t = some .withdrawn := by
    intro u p q hq hne
    have htu : t ≠ u := by
      rintro rfl
      exact hne (Option.some.inj (hq.symm.trans hp))
    rw [phase?_setPhase_of_ne p htu, hp]
  cases hm with
  | submit =>
    refine ⟨?_, hn⟩
    have ht : t < w.submissions.length := by
      obtain ⟨c, hc⟩ := phase?_eq_some_iff.mp hp
      exact (List.getElem?_eq_some_iff.mp hc).1
    rw [phase?_submit, if_neg (by omega), hp]
  | @send u c waiting =>
    have hu : w.phase? u = some .waiting := phase?_eq_some_iff.mpr ⟨c, waiting⟩
    have htu : t ≠ u := by
      rintro rfl
      cases Option.some.inj (hu.symm.trans hp)
    exact ⟨hset hu nofun, by simp [hn, htu]⟩
  | refuse waiting => exact ⟨hset waiting nofun, hn⟩
  | receive sent | lose sent => exact ⟨hset sent nofun, hn⟩
  | @abandon u p phase isOpen =>
    refine ⟨hset (p := .withdrawn) phase ?_, hn⟩
    rintro rfl
    cases isOpen
  | _ => exact ⟨hp, hn⟩

/-- **A request that was not sent when its caller gave up never is.** -/
theorem not_entered_of_abandon (hk : w.Known) (hp : w.phase? t = some .waiting)
    (h : w.step service (.abandon t) = some w') (hrun : w'.run service es = some w'') :
    t ∉ w''.journal.entered := by
  have hw' : w'.phase? t = some .withdrawn ∧ t ∉ w'.journal.entered := by
    cases Move.of_step h with
    | abandon => exact ⟨phase?_setPhase_self hp, hk.not_mem_entered hp⟩
  exact (invariant_run (P := fun v => v.phase? t = some .withdrawn ∧ t ∉ v.journal.entered)
    (fun hv hm => hm.not_entered hv.1 hv.2) hrun hw').2

end Clearance.Worker
