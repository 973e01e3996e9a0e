import Clearance.Proofs.Entitlement.Epoch
import Clearance.Proofs.Lists
import Clearance.Proofs.View.Context
import Clearance.Proofs.View.Pass
import Clearance.Proofs.View.Snapshot

/-!
# Refreshes while the context changes

A refresh resolves its records while the context may change under it, and judges them at its end.
Its snapshot is therefore that of one moment: the one at which it ends.  The payloads are those
which its records found in the cache, each when its turn came, or which the backend gave for them.

## Main definitions

* `Viewing.Obtained`: a payload that a record of a refresh has got in a run
* `Viewing.Tracked`: the invariant, which ties the state to the run that led to it

## Main results

* `Viewing.tracked_run`: it holds after every run
* `Viewing.exists_complete`: every snapshot was made when its refresh ended
* `Viewing.isSome_step_complete`: a refresh can end when its payloads have all come
* `Viewing.snapshot_exact`: all that a snapshot tells, over every run
-/

namespace Clearance.Viewing

variable {cacheable : List String} {s s' t : Viewing} {e : Event} {es before after : List Event}
  {k i : Nat}

/-! ## Runs -/

theorem run_append (s : Viewing) (es es' : List Event) :
    s.run (es ++ es') = (s.run es).bind fun s => s.run es' := by
  induction es generalizing s with
  | nil => rfl
  | cons e es ih =>
    rw [List.cons_append, run, run, Option.bind_assoc]
    exact congrArg _ (funext ih)

theorem run_snoc (s : Viewing) (es : List Event) (e : Event) :
    s.run (es ++ [e]) = (s.run es).bind fun s => s.step e := by
  rw [run_append]
  congr 1
  funext t
  exact Option.bind_fun_some (t.step e)

/-- The changes of a run, refused ones among them. -/
def changesIn (es : List Event) : List Change :=
  es.filterMap fun
    | .change c => some c
    | _ => none

/-- The records of the refreshes of a run, oldest first. -/
def begun (es : List Event) : List (List RawRecord) :=
  es.filterMap fun
    | .begin records => some records
    | _ => none

/-- All records of a refresh, in order. -/
def Pass.records (p : Pass) : List RawRecord := p.refresh.fetches.map (·.record) ++ p.ahead

/-- The payload that record `i` of refresh `k` has got in a run: with the fields that the cache had
when its turn came, or with those in the answer of the backend for it. -/
inductive Obtained (cacheable : List String) (es : List Event) (k i : Nat) (record : RawRecord) :
    Payload → Prop where
  | cached {before after : List Event} {s : Viewing} {r : Refresh} {ahead : List RawRecord}
    {f : Fields} (split : es = before ++ .look k :: after)
    (moment : (initial cacheable).run before = some s)
    (turn : s.passes[k]? = some ⟨r, record :: ahead⟩) (place : r.fetches.length = i)
    (found : s.view.cache.find? record.id = some f) :
    Obtained cacheable es k i record (record.query.payload (some f))
  | answered {a : Answer} (answered : .receive k i a ∈ es) :
    Obtained cacheable es k i record (record.query.payload a.fields?)

theorem Obtained.snoc {record : RawRecord} {payload : Payload}
    (h : Obtained cacheable es k i record payload) (e : Event) :
    Obtained cacheable (es ++ [e]) k i record payload := by
  cases h with
  | @cached before after s r ahead f split moment turn place found =>
    have hsplit : es ++ [e] = before ++ .look k :: (after ++ [e]) := by
      rw [split, List.append_assoc, List.cons_append]
    exact .cached hsplit moment turn place found
  | answered answered => exact .answered (List.mem_append_left _ answered)

/-- What a state tells of the run that led to it. -/
structure Tracked (cacheable : List String) (es : List Event) (s : Viewing) : Prop where
  moment : (initial cacheable).run es = some s
  session : s.view.session = Session.initial.run (changesIn es)
  records : s.passes.map Pass.records = begun es
  obtained : ∀ k p i record payload, s.passes[k]? = some p →
    p.refresh.fetches[i]? = some ⟨record, some payload⟩ →
    Obtained cacheable es k i record payload

theorem getElem?_passes_set {p q : Pass} (hk : s.passes[k]? = some p) {j : Nat} {u : Pass}
    (hj : (s.passes.set k q)[j]? = some u) : j = k ∧ u = q ∨ j ≠ k ∧ s.passes[j]? = some u := by
  have hlt : k < s.passes.length := (List.getElem?_eq_some_iff.mp hk).1
  rw [List.getElem?_set, if_pos hlt] at hj
  split at hj
  · next he =>
    subst he
    exact .inl ⟨rfl, (Option.some.inj hj).symm⟩
  · next hne => exact .inr ⟨fun he => hne he.symm, hj⟩

theorem Tracked.step (h : Tracked cacheable es s) (hstep : s.step e = some s') :
    Tracked cacheable (es ++ [e]) s' := by
  have hmoment : (initial cacheable).run (es ++ [e]) = some s' := by
    rw [run_snoc, h.moment, Option.bind_some, hstep]
  have hchanges : changesIn (es ++ [e]) = changesIn es ++ changesIn [e] := List.filterMap_append
  have hbegun : begun (es ++ [e]) = begun es ++ begun [e] := List.filterMap_append
  refine ⟨hmoment, ?_, ?_, ?_⟩
  · rw [hchanges]
    cases Move.of_step hstep with
    | change =>
      rw [View.session_apply, h.session]
      exact (Session.run_snoc _ _ _).symm
    | begin | look | receive | complete =>
      rw [show changesIn [_] = [] from rfl, List.append_nil]
      exact h.session
  · rw [hbegun]
    cases Move.of_step hstep with
    | begin => rw [List.map_append, h.records]; rfl
    | look pass =>
      rw [show begun [_] = [] from rfl, List.append_nil, ← h.records]
      exact map_set_of_eq pass (by simp [Pass.records])
    | @receive k i r ahead record a pass waiting =>
      rw [show begun [_] = [] from rfl, List.append_nil, ← h.records]
      refine map_set_of_eq pass ?_
      exact congrArg (· ++ ahead) (map_set_of_eq waiting rfl)
    | change | complete =>
      rw [show begun [_] = [] from rfl, List.append_nil]
      exact h.records
  · intro j p n record payload hj hn
    cases Move.of_step hstep with
    | begin =>
      rw [List.getElem?_append] at hj
      split at hj
      · exact (h.obtained j p n record payload hj hn).snoc _
      · -- a refresh that has just begun has no payloads
        obtain ⟨-, rfl⟩ : _ ∧ p = _ := by simpa [List.getElem?_singleton, eq_comm] using hj
        simp at hn
    | @look k r record' ahead pass =>
      obtain ⟨rfl, rfl⟩ | ⟨-, hj⟩ := getElem?_passes_set pass hj
      · dsimp only at hn
        rw [List.getElem?_append] at hn
        split at hn
        · exact (h.obtained j _ n record payload pass hn).snoc _
        · -- the record whose turn it is, if the cache has its fields
          next hlen =>
          obtain ⟨hn0, hf⟩ := List.getElem?_eq_some_iff.mp hn
          have hn' : n = r.fetches.length := by
            rw [List.length_singleton] at hn0
            omega
          subst hn'
          obtain ⟨rfl, hp⟩ : record' = record ∧ (s.view.cache.find? record'.id).map
              (fun f => record'.query.payload (some f)) = some payload := by simpa using hf
          obtain ⟨f, hfound, rfl⟩ := Option.map_eq_some_iff.mp hp
          exact .cached rfl h.moment pass rfl hfound
      · exact (h.obtained j p n record payload hj hn).snoc _
    | @receive k i r ahead record' a pass waiting =>
      -- only the record that waited has anything new
      obtain ⟨rfl, rfl⟩ | ⟨-, hj⟩ := getElem?_passes_set pass hj
      · dsimp only at hn
        rw [List.getElem?_set] at hn
        split at hn
        · next hi =>
          subst hi
          split at hn
          · obtain ⟨rfl, rfl⟩ : record' = record ∧ record'.query.payload a.fields? = payload := by
              simpa using hn
            exact .answered (by simp)
          · cases hn
        · exact (h.obtained j _ n record payload pass hn).snoc _
      · exact (h.obtained j p n record payload hj hn).snoc _
    | change | complete => exact (h.obtained j p n record payload hj hn).snoc _

/-- **Every run keeps track.** -/
theorem tracked_run (h : (initial cacheable).run es = some s) : Tracked cacheable es s := by
  induction es using List.reverseRecOn generalizing s with
  | nil =>
    obtain rfl := Option.some.inj h
    exact ⟨rfl, rfl, rfl, fun k p i record payload hk => by simp [initial] at hk⟩
  | append_singleton es e ih =>
    rw [run_snoc] at h
    obtain ⟨t, ht, hstep⟩ := Option.bind_eq_some_iff.mp h
    exact (ih ht).step hstep

/-- **Every snapshot was made at the moment at which its refresh ended.** -/
theorem exists_complete {snapshot : Snapshot} (h : (initial cacheable).run es = some s)
    (hk : (k, snapshot) ∈ s.snapshots) :
    ∃ before after t r objects, es = before ++ .complete k :: after ∧
      (initial cacheable).run before = some t ∧ t.passes[k]? = some ⟨r, []⟩ ∧
      r.objects? = some objects ∧
      snapshot = .ofObjects t.view.session.epoch t.view.session.active objects := by
  induction es using List.reverseRecOn generalizing s with
  | nil =>
    obtain rfl := Option.some.inj h
    simp [initial] at hk
  | append_singleton es e ih =>
    rw [run_snoc] at h
    obtain ⟨u, hu, hstep⟩ := Option.bind_eq_some_iff.mp h
    have old : (k, snapshot) ∈ u.snapshots → ∃ before after t r objects,
        es ++ [e] = before ++ .complete k :: after ∧ (initial cacheable).run before = some t ∧
        t.passes[k]? = some ⟨r, []⟩ ∧ r.objects? = some objects ∧
        snapshot = .ofObjects t.view.session.epoch t.view.session.active objects := by
      intro hold
      obtain ⟨before, after, t, r, objects, rfl, ht⟩ := ih hu hold
      exact ⟨before, after ++ [e], t, r, objects, by simp, ht⟩
    cases Move.of_step hstep with
    | @complete j r objects pass payloads =>
      rcases List.mem_append.mp hk with hk | hk
      · exact old hk
      · obtain ⟨rfl, rfl⟩ : k = j ∧ snapshot = _ := by simpa using hk
        exact ⟨es, [], u, r, objects, rfl, hu, pass, payloads, rfl⟩
    | change | begin | look | receive => exact old hk

/-- Two moments of a run with the same epoch have the same session. -/
theorem session_eq_of_epoch_eq (hcount : (changesIn es).length < Session.lastEpoch)
    (hs : (initial cacheable).run before = some s) (hb : before <+: es)
    (ht : (initial cacheable).run after = some t) (ha : after <+: es)
    (h : s.view.session.epoch = t.view.session.epoch) : s.view.session = t.view.session := by
  wlog hle : before <+: after generalizing before after s t
  · have hle' := (List.prefix_or_prefix_of_prefix hb ha).resolve_left hle
    exact (this ht ha hs hb h.symm hle').symm
  -- the later moment goes on from the earlier one
  obtain ⟨later, rfl⟩ := hle
  obtain ⟨rest, rfl⟩ := ha
  have hsplit : changesIn (before ++ later) = changesIn before ++ changesIn later :=
    List.filterMap_append
  have hlen : (changesIn before ++ changesIn later).length ≤ Session.lastEpoch := by
    rw [← hsplit]
    rw [show changesIn (before ++ later ++ rest) = changesIn (before ++ later) ++ changesIn rest from
      List.filterMap_append, List.length_append] at hcount
    omega
  rw [(tracked_run hs).session, (tracked_run ht).session, hsplit] at h ⊢
  exact (Session.run_eq_of_epoch_eq hlen h.symm).symm

/-- A refresh whose payloads have all come can end. -/
theorem isSome_step_complete {r : Refresh} (hk : s.passes[k]? = some ⟨r, []⟩)
    (hpayloads : ∀ f ∈ r.fetches, f.payload.isSome) (hnew : k ∉ s.snapshots.map Prod.fst) :
    (s.step (.complete k)).isSome := by
  obtain ⟨objects, hobjects⟩ := Option.isSome_iff_exists.mp (Refresh.isSome_objects? hpayloads)
  have hany : (s.snapshots.any fun x => x.1 = k) = false := by
    refine List.any_eq_false.mpr fun x hx he => hnew ?_
    exact of_decide_eq_true he ▸ List.mem_map_of_mem hx
  simp [step, hany, hk, View.complete, hobjects]

/-- **A snapshot is exact.**  After any run of refreshes and changes, with fewer changes than there
are epochs, a snapshot that was returned is that of a moment of the run, at which its refresh ended.
The records of the refresh have got their payloads by then, out of the cache or from the backend.
Those objects are visible that could be read and whose markings are allowed by the active set of
that moment, in the order of the records; all others are withheld, in the order of the records,
with the verdict by the same active set, or as unreadable; so every record is in one of the two
lists, once.  The epoch is that of the same moment, and at all moments of the run that have this
epoch the active set is the same.  The banner is that of the visible objects, in their order. -/
theorem snapshot_exact {snapshot : Snapshot} (h : (initial cacheable).run es = some s)
    (hk : (k, snapshot) ∈ s.snapshots) (hcount : (changesIn es).length < Session.lastEpoch) :
    ∃ before after t records payloads active, es = before ++ .complete k :: after ∧
      (initial cacheable).run before = some t ∧ (begun es)[k]? = some records ∧
      (payloads.length = records.length ∧
        ∀ i record payload, records[i]? = some record → payloads[i]? = some payload →
          Obtained cacheable before k i record payload) ∧
      (snapshot.visible = (List.zipWith ResolvedObject.ofRecord records payloads).filter fun o =>
        o.payload.hasStatic && explain o.marking active = .allowed) ∧
      (snapshot.blocked = ((List.zipWith ResolvedObject.ofRecord records payloads).filter fun o =>
          !(o.payload.hasStatic && explain o.marking active = .allowed)).map fun o =>
        if o.payload.hasStatic then ⟨o.id, explain o.marking active, none⟩
        else ⟨o.id, .unreadable "static payload unavailable", some o⟩) ∧
      (snapshot.visible.map (·.id) ++ snapshot.blocked.map (·.id)).Perm (records.map (·.id)) ∧
      (t.view.session.epoch = snapshot.epoch ∧
        ∀ moment u, moment <+: es → (initial cacheable).run moment = some u →
          u.view.session.epoch = snapshot.epoch → u.view.session.active = active) ∧
      snapshot.banner = .compute (snapshot.visible.map (·.marking)) := by
  obtain ⟨before, after, t, r, objects, rfl, ht, hpass, hobjects, rfl⟩ := exists_complete h hk
  obtain ⟨payloads, hpayloads, rfl⟩ := Refresh.exists_payloads hobjects
  have htracked := tracked_run ht
  have hrecords : (begun before)[k]? = some (r.fetches.map (·.record)) := by
    rw [← htracked.records, List.getElem?_map, hpass, Option.map_some, Pass.records, List.append_nil]
  have hlen : payloads.length = (r.fetches.map (·.record)).length := by
    simpa using (congrArg List.length hpayloads).symm
  refine ⟨before, after, t, r.fetches.map (·.record), payloads, t.view.session.active, rfl, ht, ?_,
    ⟨hlen, fun i record payload hi hp => ?_⟩, Snapshot.visible_ofObjects _,
    Snapshot.blocked_ofObjects _, ?_, ⟨rfl, fun moment u hm hu hepoch => ?_⟩, rfl⟩
  · -- the refresh had begun before it ended
    have hsplit : begun (before ++ .complete k :: after) = begun before ++ begun after := by
      rw [begun, List.filterMap_append]
      rfl
    rw [hsplit, List.getElem?_append_left (List.getElem?_eq_some_iff.mp hrecords).1, hrecords]
  · have hf : r.fetches[i]? = some ⟨record, some payload⟩ := by
      have hpi := congrArg (·[i]?) hpayloads
      simp only [List.getElem?_map, hp, Option.map_some] at hpi hi
      obtain ⟨f, hf, hfp⟩ := Option.map_eq_some_iff.mp hpi
      obtain ⟨g, hg, rfl⟩ := Option.map_eq_some_iff.mp hi
      obtain rfl : f = g := Option.some.inj (hf.symm.trans hg)
      rw [hf, ← hfp]
    exact htracked.obtained k _ i record payload hpass hf
  · exact (Snapshot.ids_perm _).trans (List.Perm.of_eq (ResolvedObject.map_id_zipWith hlen))
  · have hsession := session_eq_of_epoch_eq hcount hu hm ht (List.prefix_append _ _) hepoch
    rw [hsession]

/-- Two records of which the second has no readable payload, and a narrowing after the first has
its own. -/
def narrowedMeanwhile : List Event :=
  [.change (.signIn (some [⟨"secret"⟩])),
    .begin [⟨"a", "track", [1], none, none, none⟩, ⟨"b", "track", [2], none, none, none⟩],
    .look 0, .look 0, .receive 0 0 (.ok { payload := some "\x7b\x7d" }), .change (.narrow {}),
    .receive 0 1 (.ok { error := some "broken" }), .complete 0]

theorem snapshot_exact_narrowed_meanwhile :
    ∃ s snapshot, (initial ["track"]).run narrowedMeanwhile = some s ∧
      (0, snapshot) ∈ s.snapshots ∧ (changesIn narrowedMeanwhile).length < Session.lastEpoch ∧
      (snapshot.visible.map (·.id) ++ snapshot.blocked.map (·.id)).Perm ["a", "b"] ∧
      snapshot.banner = .compute (snapshot.visible.map (·.marking)) := by
  have hsome : ((initial ["track"]).run narrowedMeanwhile).map
      (fun s => s.snapshots.map Prod.fst) = some [0] := by decide +kernel
  obtain ⟨s, h, hs⟩ := Option.map_eq_some_iff.mp hsome
  obtain ⟨⟨k, snapshot⟩, hk, rfl⟩ := List.mem_map.mp (hs ▸ List.mem_singleton_self 0)
  have hcount : (changesIn narrowedMeanwhile).length < Session.lastEpoch := by decide
  obtain ⟨before, after, t, records, payloads, active, -, -, hrecords, -, -, -, hperm, -, hbanner⟩ :=
    snapshot_exact h hk hcount
  obtain rfl := Option.some.inj hrecords
  exact ⟨s, snapshot, h, hk, hcount, hperm, hbanner⟩

end Clearance.Viewing
