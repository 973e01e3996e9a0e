import Clearance.Proofs.Resolver.Calls
import Clearance.View.Basic

/-!
# The moves of refreshes

Refreshes take their steps side by side, and the context changes between them.  A move is a step
together with the way in which it turned out, with what the record concerned has got written out.

## Main definitions

* `Viewing.Move`: the ways in which an event can turn out

## Main results

* `View.look_eq`, `View.receive_eq`: what a record gets from the cache and from an answer
* `Refresh.exists_payloads`, `Refresh.isSome_objects?`: the objects of a refresh and its payloads
* `Viewing.Move.of_step`: what an event changes is one of its moves
-/

namespace Clearance

namespace View

/-- A record that asks the cache: it has the fields of a hit, or waits. -/
theorem look_eq (v : View) (r : Refresh) (record : RawRecord) :
    v.look r record =
      (⟨r.fetches ++
          [⟨record, (v.cache.find? record.id).map fun f => record.query.payload (some f)⟩]⟩,
        ⟨v.session, (v.cache.look record.query).2⟩) := by
  simp only [look, Cache.look, Cache.get, RawRecord.query]
  cases v.cache.find? record.id <;> rfl

/-- A record that waits gets what is in the answer. -/
theorem receive_eq (v : View) {r : Refresh} {i : Nat} {record : RawRecord}
    (h : r.fetches[i]? = some ⟨record, none⟩) (a : Answer) :
    v.receive r i a =
      (⟨r.fetches.set i ⟨record, some (record.query.payload a.fields?)⟩⟩,
        ⟨v.session, (v.cache.receive record.query a).2⟩) := by
  rw [receive, h]
  simp only [Cache.fst_receive]

end View

/-- What the records of a refresh have come to, once all payloads are there. -/
theorem Refresh.exists_payloads {r : Refresh} {objects : List ResolvedObject}
    (h : r.objects? = some objects) :
    ∃ payloads, r.fetches.map (·.payload) = payloads.map some ∧
      objects = List.zipWith ResolvedObject.ofRecord (r.fetches.map (·.record)) payloads := by
  obtain ⟨fetches⟩ := r
  simp only [objects?] at h
  induction fetches generalizing objects with
  | nil =>
    obtain rfl : [] = objects := by simpa using h
    exact ⟨[], rfl, rfl⟩
  | cons f fetches ih =>
    simp only [List.mapM_cons] at h
    obtain ⟨o, ho, h⟩ := Option.bind_eq_some_iff.mp h
    obtain ⟨rest, hrest, h⟩ := Option.bind_eq_some_iff.mp h
    obtain rfl : o :: rest = objects := Option.some.inj h
    obtain ⟨p, hp, rfl⟩ := Option.map_eq_some_iff.mp ho
    obtain ⟨payloads, hpayloads, rfl⟩ := ih hrest
    refine ⟨p :: payloads, ?_, rfl⟩
    rw [List.map_cons, List.map_cons, hp, hpayloads]

theorem Refresh.isSome_objects? {r : Refresh} (h : ∀ f ∈ r.fetches, f.payload.isSome) :
    r.objects?.isSome := by
  obtain ⟨fetches⟩ := r
  induction fetches with
  | nil => rfl
  | cons f fetches ih =>
    obtain ⟨p, hp⟩ := Option.isSome_iff_exists.mp (h f List.mem_cons_self)
    obtain ⟨rest, hrest⟩ :=
      Option.isSome_iff_exists.mp (ih fun g hg => h g (List.mem_cons_of_mem _ hg))
    simp only [objects?] at hrest ⊢
    rw [List.mapM_cons, hp, hrest]
    rfl

/-- Records keep their names. -/
theorem ResolvedObject.map_id_zipWith {records : List RawRecord} {payloads : List Payload}
    (h : payloads.length = records.length) :
    (List.zipWith ofRecord records payloads).map (·.id) = records.map (·.id) := by
  refine List.ext_getElem (by simp [h]) fun i _ _ => ?_
  simp [ofRecord]

namespace Viewing

variable {s s' : Viewing} {e : Event}

/-- The ways in which an event can turn out. -/
inductive Move (s : Viewing) : Event → Viewing → Prop where
  /-- The context changes, or the change is refused. -/
  | change {c : Change} :
    Move s (.change c)
      { s with view := (c.apply s.view).2, published := s.published ++ (c.apply s.view).1 }
  /-- Someone asks for a refresh. -/
  | begin {records : List RawRecord} :
    Move s (.begin records) { s with passes := s.passes ++ [⟨⟨[]⟩, records⟩] }
  /-- A record asks the cache. -/
  | look {k : Nat} {r : Refresh} {record : RawRecord} {ahead : List RawRecord}
    (pass : s.passes[k]? = some ⟨r, record :: ahead⟩) :
    Move s (.look k)
      { s with
        view := ⟨s.view.session, (s.view.cache.look record.query).2⟩
        passes :=
          s.passes.set k
            ⟨⟨r.fetches ++
                [⟨record,
                  (s.view.cache.find? record.id).map fun f => record.query.payload (some f)⟩]⟩,
              ahead⟩ }
  /-- A record that waits gets its answer. -/
  | receive {k i : Nat} {r : Refresh} {ahead : List RawRecord} {record : RawRecord} {a : Answer}
    (pass : s.passes[k]? = some ⟨r, ahead⟩) (waiting : r.fetches[i]? = some ⟨record, none⟩) :
    Move s (.receive k i a)
      { s with
        view := ⟨s.view.session, (s.view.cache.receive record.query a).2⟩
        passes :=
          s.passes.set k
            ⟨⟨r.fetches.set i ⟨record, some (record.query.payload a.fields?)⟩⟩, ahead⟩ }
  /-- A refresh ends whose payloads have all come. -/
  | complete {k : Nat} {r : Refresh} {objects : List ResolvedObject}
    (pass : s.passes[k]? = some ⟨r, []⟩) (payloads : r.objects? = some objects) :
    Move s (.complete k)
      { s with
        published :=
          s.published ++ [(Snapshot.ofObjects s.view.session.epoch s.view.session.active objects).event]
        snapshots :=
          s.snapshots ++
            [(k, Snapshot.ofObjects s.view.session.epoch s.view.session.active objects)] }

/-- **What an event changes is one of its moves.** -/
theorem Move.of_step (h : s.step e = some s') : Move s e s' := by
  cases e with
  | change c =>
    obtain rfl := Option.some.inj h
    exact .change
  | begin records =>
    obtain rfl := Option.some.inj h
    exact .begin
  | look k =>
    simp only [step] at h
    split at h
    · next r record ahead hk =>
      obtain rfl := Option.some.inj h
      rw [View.look_eq]
      exact .look hk
    · cases h
  | receive k i a =>
    simp only [step] at h
    split at h
    · next r ahead hk =>
      split at h
      · next hc =>
        obtain rfl := Option.some.inj h
        obtain ⟨hnone, hi⟩ := hc
        have hf : r.fetches[i]? = some ⟨r.fetches[i].record, none⟩ := by
          rw [List.getElem?_eq_getElem hi, Option.bind_some, Option.isNone_iff_eq_none] at hnone
          rw [List.getElem?_eq_getElem hi, ← hnone]
        rw [View.receive_eq _ hf]
        exact .receive hk hf
      · cases h
    · cases h
  | complete k =>
    simp only [step] at h
    split at h
    · cases h
    · split at h
      · next r hk =>
        split at h
        · next snapshot events hc =>
          obtain rfl := Option.some.inj h
          obtain ⟨objects, ho, hs⟩ := Option.map_eq_some_iff.mp hc
          obtain ⟨rfl, rfl⟩ := Prod.mk.inj hs
          exact .complete hk ho
        · cases h
      · cases h

end Viewing
end Clearance
