import Clearance.Proofs.Worker.Requests

/-!
# The callers of a worker

A caller that has sent its request is registered until it gets its reply, gives up, or the router
ends.  Nothing else registers a caller, and no caller is registered twice.  One that sends when the
router has ended is stranded: it stays registered until it gives up, and no reply will come.

## Main definitions

* `Worker.Known`: whose requests have entered
* `Worker.Stranding`: whose requests entered when the router had ended
* `Worker.Registered`: who waits for a reply

## Main results

* `Worker.Known.move`, `Worker.Stranding.move`, `Worker.Registered.move`: every move keeps these
-/

namespace Clearance.Worker

variable {service : Service} {session : WorkerSession} {w w' : Worker} {e : Event}
  {es : List Event} {t u : Nat}

theorem phase?_setPhase {p q : Phase} (h : w.phase? t = some q) (u : Nat) :
    (w.setPhase t p).phase? u = if u = t then some p else w.phase? u := by
  split
  · next hu => rw [hu, phase?_setPhase_self h]
  · next hu => exact phase?_setPhase_of_ne p hu

theorem phase?_submit (w : Worker) (c : List UInt8) (u : Nat) :
    ({ w with submissions := w.submissions ++ [{ ciphertext := c }] } : Worker).phase? u =
      if u = w.submissions.length then some .waiting else w.phase? u := by
  simp only [phase?, List.getElem?_append, List.getElem?_singleton]
  split
  · next h => rw [if_neg (by omega)]
  · split
    · next h => rw [if_pos (by omega)]; rfl
    · next h => rw [if_neg (by omega), List.getElem?_eq_none (by omega)]

theorem nodup_append_singleton {l : List Nat} (h : l.Nodup) (ht : t ∉ l) :
    (l ++ [t]).Nodup := by
  refine List.nodup_append.mpr ⟨h, List.pairwise_singleton _ t, fun a ha b hb hab => ht ?_⟩
  rw [← List.mem_singleton.mp hb, ← hab]
  exact ha

/-- Whose request has entered: every caller that is past waiting for the worker and not refused,
once each. -/
structure Known (w : Worker) : Prop where
  known : ∀ t ∈ w.journal.entered, ∃ p, w.phase? t = some p ∧ p ≠ .waiting
  entered_of_sent : ∀ t, w.phase? t = some .sent → t ∈ w.journal.entered
  nodup : w.journal.entered.Nodup

theorem Known.not_mem_entered (h : w.Known) (ht : w.phase? t = some .waiting) :
    t ∉ w.journal.entered := by
  intro hm
  obtain ⟨p, hp, hne⟩ := h.known t hm
  exact hne (Option.some.inj (hp.symm.trans ht))

theorem Known.setPhase (h : w.Known) {p q : Phase} (hq : w.phase? t = some q) (hw : p ≠ .waiting)
    (hs : p ≠ .sent) : (w.setPhase t p).Known where
  known u hu := by
    rw [phase?_setPhase hq]
    split
    · exact ⟨p, rfl, hw⟩
    · exact h.known u hu
  entered_of_sent u hu := by
    rw [phase?_setPhase hq] at hu
    split at hu
    · exact absurd (Option.some.inj hu) hs
    · exact h.entered_of_sent u hu
  nodup := h.nodup

theorem Known.move (h : w.Known) (hm : Move service w e w') : w'.Known := by
  cases hm with
  | submit =>
    -- the new caller waits, and no request has its ticket
    have hnew : ∀ u ∈ w.journal.entered, u ≠ w.submissions.length := by
      rintro u hu rfl
      obtain ⟨p, hp, -⟩ := h.known _ hu
      simp [phase?] at hp
    refine ⟨fun u hu => ?_, fun u hu => ?_, h.nodup⟩
    · rw [phase?_submit, if_neg (hnew u hu)]
      exact h.known u hu
    · rw [phase?_submit] at hu
      split at hu
      · cases hu
      · exact h.entered_of_sent u hu
  | @send t c waiting =>
    have hw : w.phase? t = some .waiting := phase?_eq_some_iff.mpr ⟨c, waiting⟩
    have hp : ∀ u, (w.setPhase t .sent).phase? u = if u = t then some .sent else w.phase? u :=
      phase?_setPhase hw
    refine ⟨fun u hu => ?_, fun u hu => ?_, ?_⟩
    · change ∃ p, (w.setPhase t .sent).phase? u = some p ∧ p ≠ .waiting
      rw [hp]
      split
      · exact ⟨.sent, rfl, by simp⟩
      · next hne =>
        rcases List.mem_append.mp hu with hu | hu
        · exact h.known u hu
        · exact absurd (List.mem_singleton.mp hu) hne
    · change (w.setPhase t .sent).phase? u = some .sent at hu
      rw [hp] at hu
      split at hu
      · next he => simp [he]
      · exact List.mem_append_left _ (h.entered_of_sent u hu)
    · exact nodup_append_singleton h.nodup (h.not_mem_entered hw)
  | refuse waiting => exact h.setPhase waiting (by simp) (by simp)
  | receive sent => exact h.setPhase sent (by simp) (by simp)
  | lose sent => exact h.setPhase sent (by simp) (by simp)
  | abandon phase =>
    have h' := h.setPhase phase (p := .withdrawn) (by simp) (by simp)
    exact ⟨h'.known, h'.entered_of_sent, h'.nodup⟩
  | _ => exact ⟨h.known, h.entered_of_sent, h.nodup⟩

/-- A request is stranded if the router had ended when it entered. -/
theorem Journal.mem_stranded_enter {j : Journal} {routing : Bool} :
    u ∈ (j.enter t routing).stranded ↔ u ∈ j.stranded ∨ u = t ∧ routing = false := by
  cases routing <;> simp [Journal.enter]

/-- The requests that entered when the router had ended.  They are not answered, since the router
ends after the task. -/
structure Stranding (w : Worker) : Prop where
  closed : ∀ t ∈ w.journal.stranded, w.routing = false
  sublist : w.journal.stranded.Sublist w.journal.entered
  unposted : ∀ t ∈ w.journal.stranded, t ∉ w.journal.posted

theorem Stranding.not_mem_of_routing (h : w.Stranding) (hr : w.routing = true) (t : Nat) :
    t ∉ w.journal.stranded := by
  intro ht
  rw [h.closed t ht] at hr
  cases hr

/-- Who is registered: the callers that have sent and have got nothing, as long as the router goes
on, and those that are stranded.  The router ends after the task, and with nothing left to hand
on. -/
structure Registered (w : Worker) : Prop where
  closed : w.routing = false → w.alive = false ∧ w.outbox = []
  mem_pending_iff : ∀ t, t ∈ w.pending ↔
    w.phase? t = some .sent ∧ t ∉ w.delivered.map Prod.fst ∧
      (w.routing = true ∨ t ∈ w.journal.stranded)
  nodup_pending : w.pending.Nodup
  nodup_delivered : (w.delivered.map Prod.fst).Nodup

theorem Registered.routing_of_alive (h : w.Registered) (ha : w.alive = true) :
    w.routing = true := by
  refine Bool.of_not_eq_false fun hr => ?_
  rw [(h.closed hr).1] at ha
  cases ha

/-- A router that has replies to hand on goes on. -/
theorem Registered.routing_of_outbox (h : w.Registered) {posting : Posting} {rest : List Posting}
    (ho : w.outbox = posting :: rest) : w.routing = true := by
  refine Bool.of_not_eq_false fun hr => ?_
  rw [(h.closed hr).2] at ho
  cases ho

theorem Registered.setPhase (h : w.Registered) {p q : Phase} (hq : w.phase? t = some q)
    (hp : p ≠ .sent) (ht : t ∉ w.pending) : (w.setPhase t p).Registered where
  closed := h.closed
  mem_pending_iff u := by
    change u ∈ w.pending ↔ _
    rw [phase?_setPhase hq]
    split
    · next he => simp [he, ht, hp]
    · exact h.mem_pending_iff u
  nodup_pending := h.nodup_pending
  nodup_delivered := h.nodup_delivered

/-- A worker whose task is alive stays registered with what it has. -/
theorem Registered.of_alive (h : w.Registered) (ha : w.alive = true)
    (hs : w'.submissions = w.submissions) (hp : w'.pending = w.pending)
    (hd : w'.delivered = w.delivered) (hr : w'.routing = w.routing)
    (hj : w'.journal.stranded = w.journal.stranded) : w'.Registered where
  closed hr' := by
    rw [hr, h.routing_of_alive ha] at hr'
    cases hr'
  mem_pending_iff u := by
    rw [hp, hr, hd, hj, phase?, hs]
    exact h.mem_pending_iff u
  nodup_pending := hp ▸ h.nodup_pending
  nodup_delivered := hd ▸ h.nodup_delivered

theorem Stranding.move (h : w.Stranding) (hl : w.InLine) (hk : w.Known) (hr : w.Registered)
    (hm : Move service w e w') : w'.Stranding := by
  -- a task that posts a reply is alive, and then no one is stranded
  have hnone : w.alive = true → ∀ t, t ∉ w.journal.stranded := fun ha =>
    h.not_mem_of_routing (hr.routing_of_alive ha)
  cases hm with
  | @send t c waiting =>
    have hw : w.phase? t = some .waiting := phase?_eq_some_iff.mpr ⟨c, waiting⟩
    have hposted : t ∉ w.journal.posted := fun hp =>
      hk.not_mem_entered hw (hl.entered_of_posted hp)
    refine ⟨fun u hu => ?_, ?_, fun u hu => ?_⟩
    · rcases Journal.mem_stranded_enter.mp hu with hu | ⟨-, hclosed⟩
      · exact h.closed u hu
      · exact hclosed
    · show (if w.routing then _ else _ : List Nat).Sublist _
      split
      · exact h.sublist.trans (List.sublist_append_left _ _)
      · exact h.sublist.append (List.Sublist.refl _)
    · rcases Journal.mem_stranded_enter.mp hu with hu | ⟨rfl, -⟩
      · exact h.unposted u hu
      · exact hposted
  | settle alive => exact ⟨h.closed, h.sublist, fun u hu => absurd hu (hnone alive u)⟩
  | finish busy =>
    exact ⟨h.closed, h.sublist, fun u hu => absurd hu (hnone (hl.alive_of_busy busy) u)⟩
  | close => exact ⟨fun _ _ => rfl, h.sublist, h.unposted⟩
  | _ => exact ⟨h.closed, h.sublist, h.unposted⟩

theorem Registered.move (h : w.Registered) (hl : w.InLine) (hk : w.Known) (hn : w.Stranding)
    (hf : w.Faithful service session) (hm : Move service w e w') : w'.Registered := by
  cases hm with
  | submit =>
    refine ⟨h.closed, fun u => ?_, h.nodup_pending, h.nodup_delivered⟩
    change u ∈ w.pending ↔ _
    rw [phase?_submit]
    split
    · next he =>
      -- no one is registered under a ticket that is not taken
      have hn : w.phase? u = none := by simp [phase?, he]
      simp [h.mem_pending_iff, hn]
    · exact h.mem_pending_iff u
  | @send t c waiting =>
    have hw : w.phase? t = some .waiting := phase?_eq_some_iff.mpr ⟨c, waiting⟩
    have hd : t ∉ w.delivered.map Prod.fst := by
      intro hd
      obtain ⟨⟨u, o⟩, hu, rfl⟩ := List.mem_map.mp hd
      exact hk.not_mem_entered hw (hl.entered_of_posted (hf.delivered u o hu).2)
    -- a caller that has only waited is neither registered nor answered
    have hp : t ∉ w.pending := by simp [h.mem_pending_iff, hw]
    refine ⟨h.closed, fun u => ?_, ?_, h.nodup_delivered⟩
    · change u ∈ w.pending ++ [t] ↔ (w.setPhase t .sent).phase? u = some .sent ∧
        u ∉ w.delivered.map Prod.fst ∧
          (w.routing = true ∨ u ∈ (w.journal.enter t w.routing).stranded)
      rw [phase?_setPhase hw, List.mem_append, List.mem_singleton, Journal.mem_stranded_enter]
      split
      · next he =>
        -- whether the router goes on or not, the caller is one of the two kinds
        cases hr : w.routing <;> simpa [he] using hd
      · next hne => simpa [hne] using h.mem_pending_iff u
    · exact nodup_append_singleton h.nodup_pending hp
  | refuse waiting => exact h.setPhase waiting (by simp) (by simp [h.mem_pending_iff, waiting])
  | receive sent delivered =>
    refine h.setPhase sent (by simp) fun hp => ?_
    exact ((h.mem_pending_iff _).mp hp).2.1 (List.mem_map_of_mem delivered)
  | lose sent _ unregistered => exact h.setPhase sent (by simp) unregistered
  | @abandon t p phase =>
    refine ⟨h.closed, fun u => ?_, h.nodup_pending.filter _, h.nodup_delivered⟩
    change u ∈ w.pending.filter (· ≠ t) ↔
      (w.setPhase t .withdrawn).phase? u = some .sent ∧ u ∉ w.delivered.map Prod.fst ∧
        (w.routing = true ∨ u ∈ w.journal.stranded)
    rw [phase?_setPhase phase, List.mem_filter]
    split
    · next he => simp [he]
    · next hne => simpa [hne] using h.mem_pending_iff u
  | start alive => exact h.of_alive alive rfl rfl rfl rfl rfl
  | settle alive => exact h.of_alive alive rfl rfl rfl rfl rfl
  | ask alive => exact h.of_alive alive rfl rfl rfl rfl rfl
  | finish busy => exact h.of_alive (hl.alive_of_busy busy) rfl rfl rfl rfl rfl
  | die busy => exact h.of_alive (hl.alive_of_busy busy) rfl rfl rfl rfl rfl
  | tell | shut => exact ⟨h.closed, h.mem_pending_iff, h.nodup_pending, h.nodup_delivered⟩
  | announce routing | drop routing =>
    have hr : w.routing ≠ false := by simp [routing]
    exact ⟨fun hc => absurd hc hr, h.mem_pending_iff, h.nodup_pending, h.nodup_delivered⟩
  | @deliver t o rest routing outbox registered =>
    -- the caller was registered, so that it has had no reply before
    obtain ⟨-, hd, -⟩ := (h.mem_pending_iff t).mp registered
    have hr : w.routing ≠ false := by simp [routing]
    refine ⟨fun hc => absurd hc hr, fun u => ?_, h.nodup_pending.filter _, ?_⟩
    · change u ∈ w.pending.filter (· ≠ t) ↔
        w.phase? u = _ ∧ u ∉ (w.delivered ++ [(t, o)]).map Prod.fst ∧ _
      rw [List.mem_filter, h.mem_pending_iff, List.map_append, List.mem_append, not_or]
      simp only [routing, true_or, and_true, and_assoc, decide_eq_true_eq, List.map_cons,
        List.map_nil, List.mem_singleton, ne_eq]
    · rw [List.map_append]
      exact nodup_append_singleton h.nodup_delivered hd
  | close routing dead outbox =>
    -- as long as the router went on no one was stranded
    refine ⟨fun _ => ⟨dead, outbox⟩, fun u => ?_, List.nodup_nil, h.nodup_delivered⟩
    simpa using fun _ _ => hn.not_mem_of_routing routing u

end Clearance.Worker
