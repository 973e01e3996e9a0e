import Clearance.Proofs.Resolver.Faults
import Clearance.Proofs.Resolver.Transparency

/-!
# Calls of a source type that is not kept

Whether an answer is kept is decided by the source type of the call, but what was kept is found by
the name of the object alone.  So a call of a source type that is not kept leaves nothing behind, and
yet it may find what a call of another source type has left for the same object.  If there is
nothing, it asks the backend for its own ciphertext and returns what is in the answer.

## Main definitions

* `Resolving.Kept`: fields that the cache was given for an object in a part of a run

## Main results

* `Resolving.kept_of_mem`: what an empty cache comes to hold was given to it since
* `Resolving.answered_of_done`: a call that had to ask ends with the answer to it
* `Resolving.decrypts_unless_kept`: a call of another source type decrypts, unless something is kept
* `Resolving.not_forall_other_types_decrypt`: which it may be
-/

namespace Clearance

/-- A call of a source type that is not kept leaves the entries as they were. -/
theorem Cache.entries_serve_of_not_cacheable {c : Cache} {q : Query}
    (h : c.isCacheable q.sourceType = false) (backend : List UInt8 → Answer) :
    (c.serve backend q).2.entries = c.entries := by
  cases hf : c.find? q.id with
  | some f => rw [serve_of_hit hf, entries_look]
  | none =>
    have hlook : (c.look q).2.isCacheable q.sourceType = false := by
      rw [isCacheable, cacheable_look, ← isCacheable, h]
    rw [serve_of_miss hf, receive]
    cases (backend q.ciphertext).fields? with
    | none => exact entries_look c q
    | some f => simp [insert, hlook]

namespace Resolving

variable {r r' r₀ : Resolving} {e : Event} {es later : List Event} {i : Nat} {q : Query}
  {p : Payload} {types : List String} {id : String} {f : Fields}

/-! ## What is kept -/

/-- In a part of a run, a call for the object was answered with these fields, in a source type that
is kept. -/
def Kept (es : List Event) (r : Resolving) (id : String) (f : Fields) : Prop :=
  ∃ i q a, .answer i a ∈ es ∧ a.fields? = some f ∧ r.query? i = some q ∧ q.id = id ∧
    r.cache.isCacheable q.sourceType = true

theorem Kept.snoc (h : Kept es r id f) (hm : Move r e r') : Kept (es ++ [e]) r' id f := by
  obtain ⟨i, q, a, ha, hf, hq, hid, hkept⟩ := h
  refine ⟨i, q, a, List.mem_append_left _ ha, hf, hm.query?_eq hq, hid, ?_⟩
  rw [Cache.isCacheable, hm.cacheable_eq]
  exact hkept

/-- **What an empty cache comes to hold was given to it since.** -/
theorem kept_of_mem (hempty : r₀.cache.entries = []) (h : r₀.run es = some r)
    (hf : (id, f) ∈ r.cache.entries) : Kept es r id f := by
  induction es using List.reverseRecOn generalizing r with
  | nil =>
    obtain rfl := Option.some.inj h
    rw [hempty] at hf
    cases hf
  | append_singleton es e ih =>
    rw [run_snoc] at h
    obtain ⟨s, hs, hstep⟩ := Option.bind_eq_some_iff.mp h
    have hm := Move.of_step hstep
    rcases hm.mem_entries_cases hf with hold | ⟨i, q, a, rfl, hasked, hid, hfields, hkept⟩
    · exact (ih hs hold).snoc hm
    · have hq : s.query? i = some q := by rw [query?, hasked, Option.map_some]
      refine ⟨i, q, a, by simp, hfields, hm.query?_eq hq, hid, ?_⟩
      rw [Cache.isCacheable, hm.cacheable_eq]
      exact hkept

/-- Nothing is kept for an object all of whose calls are of other source types. -/
theorem find?_eq_none_of_other (h : (initial types).run es = some r)
    (hothers : ∀ q', .look q' ∈ es → q'.id = id →
      (Cache.ofTypes types).isCacheable q'.sourceType = false) : r.cache.find? id = none := by
  refine Option.eq_none_iff_forall_ne_some.mpr fun f hf => ?_
  obtain ⟨i, q, payload, -, hq, hid, hkept, -⟩ :=
    (sound_run h).entries id f (Keyed.mem_of_find? hf)
  -- the call that left the entry was begun in the run
  have hbegun : q ∈ es.filterMap Event.query? := by
    rw [← (sound_run h).queries]
    obtain ⟨c, hc, rfl⟩ := Option.map_eq_some_iff.mp hq
    exact List.mem_map_of_mem (List.mem_of_getElem? hc)
  obtain ⟨e, he, hlook⟩ := List.mem_filterMap.mp hbegun
  cases e with
  | look q' =>
    obtain rfl := Option.some.inj hlook
    rw [hothers q' he hid] at hkept
    cases hkept
  | ask | answer | clear => cases hlook

/-! ## A call that has to ask -/

/-- A call that waits for the backend has asked it since it found nothing. -/
theorem mem_ask_of_asked (h : r.run es = some r') (hm : r.calls[i]? = some ⟨q, .missed⟩)
    (ha : r'.calls[i]? = some ⟨q, .asked⟩) : .ask i ∈ es := by
  induction es using List.reverseRecOn generalizing r' with
  | nil =>
    obtain rfl := Option.some.inj h
    cases hm.symm.trans ha
  | append_singleton es e ih =>
    rw [run_snoc] at h
    obtain ⟨s, hs, hstep⟩ := Option.bind_eq_some_iff.mp h
    rcases (Move.of_step hstep).asked_cases ha with hold | rfl
    · exact List.mem_append_left _ (ih hs hold)
    · simp

theorem query?_run (h : r.run es = some r') (hq : r.query? i = some q) :
    r'.query? i = some q := by
  induction es generalizing r with
  | nil =>
    obtain rfl := Option.some.inj h
    exact hq
  | cons e es ih =>
    obtain ⟨s, hs, hrun⟩ := Option.bind_eq_some_iff.mp h
    exact ih hrun ((Move.of_step hs).query?_eq hq)

/-- **A call that found nothing and has ended has asked the backend, and returns what is in the
answer.** -/
theorem answered_of_done (h : r.run es = some r') (hm : r.calls[i]? = some ⟨q, .missed⟩)
    (hd : r'.calls[i]? = some ⟨q, .done p⟩) :
    .ask i ∈ es ∧ ∃ a, .answer i a ∈ es ∧ p = q.payload a.fields? := by
  induction es using List.reverseRecOn generalizing r' with
  | nil =>
    obtain rfl := Option.some.inj h
    cases hm.symm.trans hd
  | append_singleton es e ih =>
    rw [run_snoc] at h
    obtain ⟨s, hs, hstep⟩ := Option.bind_eq_some_iff.mp h
    rcases (Move.of_step hstep).call_cases hd with hold | ⟨hnone, -⟩ | ⟨-, -, hasked⟩ |
      ⟨a, hasked, rfl, hdone⟩
    · obtain ⟨hask, a, ha, hp⟩ := ih hs hold
      exact ⟨List.mem_append_left _ hask, a, List.mem_append_left _ ha, hp⟩
    · -- the call was there all the time
      have hq : s.query? i = some q := query?_run hs (by rw [query?, hm, Option.map_some])
      rw [query?, hnone] at hq
      cases hq
    · cases hasked
    · cases hdone
      exact ⟨List.mem_append_left _ (mem_ask_of_asked hs hm hasked), a, by simp, rfl⟩

/-- **A call of a source type that is not kept decrypts, unless something is kept for its object.**
Take any run of calls and clearings, whose steps may overlap, and a call of a source type that is
not kept.  If the cache has nothing for its object when it asks, the backend is asked for its own
ciphertext, and its static fields are those in the answer, however other calls and clearings fall
between its steps.  If the cache has something, the call returns that, and the backend is not asked;
what it returns was answered to a call of a source type that is kept, for the same object, since any
moment at which the cache was empty.  In either case the call leaves the entries as they were.  So
nothing is ever kept for an object whose calls are all of other source types. -/
theorem decrypts_unless_kept (h : (initial types).run es = some r)
    (hother : (Cache.ofTypes types).isCacheable q.sourceType = false) :
    (r.cache.find? q.id = none →
      (∀ backend, (r.cache.serve backend q).1 =
        ⟨q.payload (backend q.ciphertext).fields?, some (backend q.ciphertext)⟩) ∧
      ∀ later r' p, r.run (.look q :: later) = some r' →
        r'.calls[r.calls.length]? = some ⟨q, .done p⟩ →
        .ask r.calls.length ∈ later ∧
          ∃ a, .answer r.calls.length a ∈ later ∧ p = q.payload a.fields?) ∧
    (∀ f, r.cache.find? q.id = some f →
      (∀ backend, (r.cache.serve backend q).1 = ⟨q.payload (some f), none⟩) ∧
      ∀ before after r₀, es = before ++ after → (initial types).run before = some r₀ →
        r₀.cache.entries = [] → Kept after r q.id f) ∧
    (∀ backend, (r.cache.serve backend q).2.entries = r.cache.entries) ∧
    ((∀ q', .look q' ∈ es → q'.id = q.id →
      (Cache.ofTypes types).isCacheable q'.sourceType = false) → r.cache.find? q.id = none) := by
  refine ⟨fun hnone => ⟨fun backend => ?_, fun later r' p hlater hd => ?_⟩,
    fun f hf => ⟨fun backend => ?_, ?_⟩, fun backend => ?_, find?_eq_none_of_other h⟩
  · rw [Cache.serve_of_miss hnone]
  · obtain ⟨s, hs, hrun⟩ := Option.bind_eq_some_iff.mp hlater
    have hmissed : s.calls[r.calls.length]? = some ⟨q, .missed⟩ := by
      cases Move.of_step hs with
      | hit found =>
        rw [hnone] at found
        cases found
      | miss => simp
    exact answered_of_done hrun hmissed hd
  · rw [Cache.serve_of_hit hf]
  · rintro before after r₀ rfl hbefore hempty
    rw [run_append, hbefore] at h
    exact kept_of_mem hempty h (Keyed.mem_of_find? hf)
  · refine Cache.entries_serve_of_not_cacheable ?_ backend
    rw [Cache.isCacheable, (sound_run h).cacheable]
    exact hother

/-! ## An object under two source types -/

/-- The call for an object of a source type that is kept, and its answer. -/
def trackKept : List Event :=
  [.look ⟨"o", "track", [1], none⟩, .ask 0,
    .answer 0 (.ok ⟨some "\x7b\"name\":\"alpha\"\x7d", none⟩)]

/-- A run after which something is kept for an object. -/
theorem exists_find?_of_run (r₀ : Resolving) (es : List Event) (id : String)
    (h : (r₀.run es).map (fun r => (r.cache.find? id).isSome) = some true) :
    ∃ r f, r₀.run es = some r ∧ r.cache.find? id = some f := by
  obtain ⟨r, hr, hsome⟩ := Option.map_eq_some_iff.mp h
  obtain ⟨f, hf⟩ := Option.isSome_iff_exists.mp hsome
  exact ⟨r, f, hr, hf⟩

theorem decrypts_unless_kept_of_sensor :
    ∃ r f, (initial ["track"]).run trackKept = some r ∧
      (Cache.ofTypes ["track"]).isCacheable "sensor" = false ∧
      r.cache.find? "o" = some f ∧ Kept trackKept r "o" f ∧
      (∀ backend, (r.cache.serve backend ⟨"o", "sensor", [2], none⟩).1.answer? = none) ∧
      ∀ backend, (r.cache.serve backend ⟨"o", "sensor", [2], none⟩).2.entries =
        r.cache.entries := by
  obtain ⟨r, f, h, hf⟩ := exists_find?_of_run (initial ["track"]) trackKept "o" (by decide +kernel)
  have hother : (Cache.ofTypes ["track"]).isCacheable "sensor" = false := by decide
  obtain ⟨-, hhit, hentries, -⟩ :=
    decrypts_unless_kept (q := ⟨"o", "sensor", [2], none⟩) h hother
  obtain ⟨hserve, hkept⟩ := hhit f hf
  exact ⟨r, f, h, hother, hf, hkept [] trackKept _ rfl rfl rfl,
    fun backend => by rw [hserve backend], hentries⟩

/-- **A call of a source type that is not kept may be answered from the cache**, with what a call of
another source type has left for the same object. -/
theorem not_forall_other_types_decrypt :
    ¬ ∀ (types : List String) (es : List Event) (r : Resolving) (q : Query)
      (backend : List UInt8 → Answer), (initial types).run es = some r →
      (Cache.ofTypes types).isCacheable q.sourceType = false →
      (r.cache.serve backend q).1.answer? = some (backend q.ciphertext) ∧
        (r.cache.serve backend q).1.payload.staticFields = (backend q.ciphertext).fields? := by
  intro hall
  obtain ⟨r, f, h, hf⟩ := exists_find?_of_run (initial ["track"]) trackKept "o" (by decide +kernel)
  obtain ⟨hasked, -⟩ := hall ["track"] trackKept r ⟨"o", "sensor", [2], none⟩
    (fun _ => .ok {}) h (by decide)
  rw [Cache.serve_of_hit hf] at hasked
  cases hasked

end Resolving
end Clearance
