import Clearance.Proofs.Worker.Callers

/-!
# What holds of a worker at all times

A reply is posted, taken by the router, and handed over if its caller is still registered; the
caller takes it when it goes on.  The invariant says at each of these stations whose request it is,
and how far its caller has come.  It is made of parts, each of which is kept by every move, some of
them only together with parts that come before.

## Main definitions

* `Worker.Settled`: what has become of requests
* `Worker.Sound`: the invariant, all parts of it

## Main results

* `Worker.Sound.move`: every move keeps the invariant
* `Worker.sound_run`: it holds after every run of a new worker
-/

namespace Clearance.Worker

variable {service : Service} {session : WorkerSession} {w w' : Worker} {e : Event}
  {es : List Event} {t u : Nat}

/-! ## What has become of requests -/

/-- What is so when no reply came to a caller, and it was told. -/
structure Unanswered (w : Worker) (t : Nat) (f : PoolFault) : Prop where
  eq : f = .workerGone w.index
  dead : w.alive = false
  undelivered : t ∉ w.delivered.map Prod.fst
  closed_of_entered : t ∈ w.journal.entered → w.routing = false
  not_stranded : t ∉ w.journal.stranded

theorem Unanswered.mono {f : PoolFault} (h : w.Unanswered t f) (hi : w'.index = w.index)
    (hd : w'.delivered = w.delivered) (he : w'.journal.entered = w.journal.entered)
    (hj : w'.journal.stranded = w.journal.stranded) (ha : w.alive = false → w'.alive = false)
    (hr : w.routing = false → w'.routing = false) : w'.Unanswered t f where
  eq := hi ▸ h.eq
  dead := ha h.dead
  undelivered := hd ▸ h.undelivered
  closed_of_entered hm := hr (h.closed_of_entered (he ▸ hm))
  not_stranded := hj ▸ h.not_stranded

/-- What callers got is what was handed to them; those that were told of no reply came to a worker
that takes no requests, or sent and outlasted the router.  A reply that was posted is on its way, was
handed over, or had no caller any more. -/
structure Settled (w : Worker) : Prop where
  done_ok : ∀ t o, w.phase? t = some (.done (.ok o)) → (t, o) ∈ w.delivered
  done_error : ∀ t f, w.phase? t = some (.done (.error f)) → w.Unanswered t f
  accounted : ∀ t ∈ w.journal.posted,
    (∃ o, .result t o ∈ w.outbox) ∨ t ∈ w.delivered.map Prod.fst ∨
      w.phase? t = some .withdrawn

theorem Settled.setPhase (h : w.Settled) {p q : Phase} (hq : w.phase? t = some q)
    (isOpen : q.isOpen = true) (hok : ∀ o, p = .done (.ok o) → (t, o) ∈ w.delivered)
    (herror : ∀ f, p = .done (.error f) → w.Unanswered t f) : (w.setPhase t p).Settled where
  done_ok u o hu := by
    rw [phase?_setPhase hq] at hu
    split at hu
    · next he => exact he ▸ hok o (Option.some.inj hu)
    · exact h.done_ok u o hu
  done_error u f hu := by
    have hun : w.Unanswered u f := by
      rw [phase?_setPhase hq] at hu
      split at hu
      · next he => exact he ▸ herror f (Option.some.inj hu)
      · exact h.done_error u f hu
    exact hun.mono rfl rfl rfl rfl id id
  accounted u hu := by
    obtain ho | hd | hw := h.accounted u hu
    · exact .inl ho
    · exact .inr (.inl hd)
    · refine .inr (.inr ?_)
      have hne : u ≠ t := by
        -- a caller that gave up has no open phase
        rintro rfl
        obtain rfl : Phase.withdrawn = q := Option.some.inj (hw.symm.trans hq)
        cases isOpen
      rw [phase?_setPhase_of_ne p hne, hw]

/-- A move that leaves the callers alone has only its replies to account for. -/
theorem Settled.mono (h : w.Settled) (hs : w'.submissions = w.submissions)
    (hi : w'.index = w.index) (hd : w'.delivered = w.delivered)
    (he : w'.journal.entered = w.journal.entered)
    (hj : w'.journal.stranded = w.journal.stranded) (ha : w.alive = false → w'.alive = false)
    (hr : w.routing = false → w'.routing = false)
    (hacc : ∀ t ∈ w'.journal.posted, (∃ o, .result t o ∈ w'.outbox) ∨
      t ∈ w.delivered.map Prod.fst ∨ w.phase? t = some .withdrawn) : w'.Settled := by
  have hp : w'.phase? = w.phase? := by funext t; rw [phase?, phase?, hs]
  refine ⟨fun t o ht => ?_, fun t f ht => ?_, fun t ht => ?_⟩
  · rw [hd]
    exact h.done_ok t o (hp ▸ ht)
  · exact (h.done_error t f (hp ▸ ht)).mono hi hd he hj ha hr
  · rw [hd, hp]
    exact hacc t ht

/-- A posted reply is on its way. -/
theorem Settled.post (h : w.Settled) (t : Nat) (o : Outcome) : (w.post t o).Settled := by
  refine h.mono rfl rfl rfl rfl rfl id id fun u hu => ?_
  rcases List.mem_append.mp hu with hu | hu
  · obtain ⟨o', ho⟩ | hd := h.accounted u hu
    · exact .inl ⟨o', List.mem_append_left _ ho⟩
    · exact .inr hd
  · obtain rfl : u = t := by simpa using hu
    exact .inl ⟨o, List.mem_append_right _ (List.mem_singleton.mpr rfl)⟩

/-- The first posting leaves the outbox, and its caller, if it had one, no longer needs it. -/
theorem Settled.pop (h : w.Settled) {posting : Posting} {rest : List Posting}
    (ho : w.outbox = posting :: rest)
    (hacc : ∀ t o, posting = .result t o → t ∈ w.journal.posted →
      t ∈ w.delivered.map Prod.fst ∨ w.phase? t = some .withdrawn) :
    ({ w with outbox := rest } : Worker).Settled := by
  refine h.mono rfl rfl rfl rfl rfl id id fun u hu => ?_
  obtain ⟨o, hm⟩ | hd := h.accounted u hu
  · rw [ho] at hm
    rcases List.mem_cons.mp hm with hm | hm
    · exact .inr (hacc u o hm.symm hu)
    · exact .inl ⟨o, hm⟩
  · exact .inr hd

theorem Settled.move (h : w.Settled) (hl : w.InLine) (hk : w.Known) (hn : w.Stranding)
    (hr : w.Registered) (hf : w.Faithful service session) (hm : Move service w e w') :
    w'.Settled := by
  -- a caller to whom a reply was handed had sent
  have hsent : ∀ {t : Nat}, t ∈ w.delivered.map Prod.fst → t ∈ w.journal.entered := by
    intro t hd
    obtain ⟨⟨u, o⟩, hu, rfl⟩ := List.mem_map.mp hd
    exact hl.entered_of_posted (hf.delivered u o hu).2
  cases hm with
  | submit =>
    have hold : ∀ {u : Nat} {p : Phase}, p ≠ .waiting →
        (if u = w.submissions.length then some .waiting else w.phase? u) = some p →
        w.phase? u = some p := by
      intro u p hp hu
      split at hu
      · exact absurd (Option.some.inj hu).symm hp
      · exact hu
    refine ⟨fun u o hu => ?_, fun u f hu => ?_, fun u hu => ?_⟩
    · rw [phase?_submit] at hu
      exact h.done_ok u o (hold nofun hu)
    · rw [phase?_submit] at hu
      exact (h.done_error u f (hold nofun hu)).mono rfl rfl rfl rfl id id
    · obtain ho | hd | hw := h.accounted u hu
      · exact .inl ho
      · exact .inr (.inl hd)
      · refine .inr (.inr ?_)
        have hlt : u < w.submissions.length := by
          obtain ⟨c, hc⟩ := phase?_eq_some_iff.mp hw
          exact (List.getElem?_eq_some_iff.mp hc).1
        rw [phase?_submit, if_neg (by omega), hw]
  | @send t c waiting =>
    have hw : w.phase? t = some .waiting := phase?_eq_some_iff.mpr ⟨c, waiting⟩
    have h' := h.setPhase (p := .sent) hw rfl nofun nofun
    refine ⟨h'.done_ok, fun u f hu => ?_, h'.accounted⟩
    -- whoever was told that the worker is gone is another one than the caller that sends
    have hne : u ≠ t := by
      rintro rfl
      cases (phase?_setPhase_self hw).symm.trans hu
    have hun := h'.done_error u f hu
    refine ⟨hun.eq, hun.dead, hun.undelivered, fun hm => hun.closed_of_entered ?_, fun hm => ?_⟩
    · exact (List.mem_append.mp hm).resolve_right fun hm => hne (List.mem_singleton.mp hm)
    · rcases Journal.mem_stranded_enter.mp hm with hm | ⟨he, -⟩
      · exact hun.not_stranded hm
      · exact hne he
  | @refuse t waiting closed =>
    have hin : t ∉ w.journal.entered := hk.not_mem_entered waiting
    refine h.setPhase waiting rfl nofun fun f he => ?_
    obtain rfl : PoolFault.workerGone w.index = f := Except.error.inj (Phase.done.inj he)
    have hdead : w.alive = false := by
      rcases closed with hs | ⟨-, hc⟩
      · exact (hl.shut hs).1
      · exact (hr.closed hc).1
    exact ⟨rfl, hdead, fun hd => hin (hsent hd), fun hm => absurd hm hin,
      fun hm => hin (hn.sublist.subset hm)⟩
  | receive sent delivered =>
    refine h.setPhase sent rfl (fun o he => ?_) nofun
    obtain rfl := Except.ok.inj (Phase.done.inj he)
    exact delivered
  | lose sent unanswered unregistered =>
    -- it had sent and got nothing, so that only the end of the router can have unregistered it
    refine h.setPhase sent rfl nofun fun f he => ?_
    obtain rfl : PoolFault.workerGone w.index = f := Except.error.inj (Phase.done.inj he)
    obtain ⟨hc, hs⟩ := not_or.mp fun hreg =>
      unregistered ((hr.mem_pending_iff _).mpr ⟨sent, unanswered, hreg⟩)
    have hc : w.routing = false := Bool.of_not_eq_true hc
    exact ⟨rfl, (hr.closed hc).1, unanswered, fun _ => hc, hs⟩
  | abandon phase isOpen =>
    have h' := h.setPhase (p := .withdrawn) phase isOpen nofun nofun
    exact ⟨h'.done_ok, fun u f hu => (h'.done_error u f hu).mono rfl rfl rfl rfl id id,
      h'.accounted⟩
  | tell => exact h.mono rfl rfl rfl rfl rfl id id h.accounted
  | start =>
    refine h.mono rfl rfl rfl rfl rfl id id fun u hu => ?_
    obtain ⟨o, ho⟩ | hd := h.accounted u hu
    · exact .inl ⟨o, List.mem_append_left _ ho⟩
    · exact .inr hd
  | settle =>
    refine Settled.post ?_ _ _
    exact h.mono rfl rfl rfl rfl rfl id id h.accounted
  | ask => exact h.mono rfl rfl rfl rfl rfl id id h.accounted
  | finish =>
    refine Settled.post ?_ _ _
    exact h.mono rfl rfl rfl rfl rfl id id h.accounted
  | shut => exact h.mono rfl rfl rfl rfl rfl id id h.accounted
  | die => exact h.mono rfl rfl rfl rfl rfl (fun _ => rfl) id h.accounted
  | announce _ outbox =>
    have h' := h.pop outbox nofun
    exact h'.mono rfl rfl rfl rfl rfl id id h'.accounted
  | @deliver t o rest _ outbox registered =>
    refine ⟨fun u o' hu => List.mem_append_left _ (h.done_ok u o' hu), fun u f hu => ?_,
      fun u hu => ?_⟩
    · have hun := h.done_error u f hu
      have hne : u ≠ t := by
        rintro rfl
        have hp := ((hr.mem_pending_iff u).mp registered).1
        cases Option.some.inj (hu.symm.trans hp)
      refine ⟨hun.eq, hun.dead, fun hd => ?_, hun.closed_of_entered, hun.not_stranded⟩
      rw [List.map_append, List.mem_append] at hd
      rcases hd with hd | hd
      · exact hun.undelivered hd
      · exact hne (List.mem_singleton.mp hd)
    · obtain ⟨o', ho⟩ | hd | hw := h.accounted u hu
      · rw [outbox] at ho
        rcases List.mem_cons.mp ho with he | ho
        · obtain ⟨rfl, rfl⟩ : u = t ∧ o' = o := by simpa using he
          exact .inr (.inl (by simp))
        · exact .inl ⟨o', ho⟩
      · exact .inr (.inl (by rw [List.map_append]; exact List.mem_append_left _ hd))
      · exact .inr (.inr hw)
  | @drop t o rest routing outbox unregistered =>
    -- whoever is past sending and not registered has a reply already, or gave up
    refine h.pop outbox fun u o' he hu => ?_
    obtain ⟨rfl, rfl⟩ : t = u ∧ o = o' := by simpa using he
    have hin := hl.entered_of_posted hu
    obtain ⟨p, hp, hne⟩ := hk.known t hin
    cases p with
    | waiting => exact absurd rfl hne
    | withdrawn => exact .inr hp
    | sent =>
      refine .inl (Classical.byContradiction fun hd => unregistered ?_)
      exact (hr.mem_pending_iff t).mpr ⟨hp, hd, .inl routing⟩
    | done r =>
      cases r with
      | ok o' => exact .inl (List.mem_map_of_mem (h.done_ok t o' hp))
      | error f =>
        -- a caller that had sent finds nothing only when the router has ended
        have hc := (h.done_error t f hp).closed_of_entered hin
        rw [routing] at hc
        cases hc
  | close => exact h.mono rfl rfl rfl rfl rfl id (fun _ => rfl) h.accounted

/-! ## The invariant -/

/-- What holds of a worker that was told a session. -/
structure Sound (service : Service) (session : WorkerSession) (w : Worker) : Prop where
  told : w.Told session
  inLine : w.InLine
  faithful : w.Faithful service session
  known : w.Known
  stranding : w.Stranding
  registered : w.Registered
  settled : w.Settled

/-- **Every move keeps the invariant.** -/
theorem Sound.move (h : w.Sound service session) (hm : Move service w e w') :
    w'.Sound service session where
  told := h.told.move hm
  inLine := h.inLine.move hm
  faithful := h.faithful.move h.told hm
  known := h.known.move hm
  stranding := h.stranding.move h.inLine h.known h.registered hm
  registered := h.registered.move h.inLine h.known h.stranding h.faithful hm
  settled := h.settled.move h.inLine h.known h.stranding h.registered h.faithful hm

theorem sound_spawn (service : Service) (index : Nat) (session : WorkerSession) :
    (spawn index session).Sound service session where
  told := .unread rfl rfl rfl rfl rfl rfl
  inLine := .of_alive rfl rfl rfl
  faithful := ⟨by simp [spawn], nofun, nofun, nofun⟩
  known := ⟨nofun, by simp [spawn, phase?], List.nodup_nil⟩
  stranding := ⟨nofun, List.Sublist.slnil, nofun⟩
  registered := ⟨nofun, by simp [spawn, phase?], List.nodup_nil, List.nodup_nil⟩
  settled := ⟨by simp [spawn, phase?], by simp [spawn, phase?], nofun⟩

/-- **The invariant holds after every run of a new worker.** -/
theorem sound_run {index : Nat} (h : (spawn index session).run service es = some w) :
    w.Sound service session :=
  invariant_run (fun hw hm => hw.move hm) h (sound_spawn service index session)

end Clearance.Worker
