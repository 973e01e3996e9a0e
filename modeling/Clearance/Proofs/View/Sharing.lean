import Clearance.Proofs.Resolver.Faults
import Clearance.Proofs.View.Context

/-!
# Calls and changes side by side

The calls of a view share its cache, and a change of the context may fall between any two steps of
a call.  The cache is cleared so that nothing is served that was decrypted in an earlier context.
But nothing ties an answer to the context in which the backend was asked: a call that waits for it
when the cache is cleared puts its answer into the cleared cache.  So the entry of an object is
fresh, whatever happens, exactly if no such call is for this object and a source type that is kept.

## Main definitions

* `Sharing`, `Sharing.step`: a view, its calls, and what may happen to them
* `Sharing.clears`: whether an event clears the cache
* `Sharing.bringer`: the call whose answer a run has kept for an object
* `Sharing.Fetched`: fields that a part of a run has fetched, from question to answer

## Main results

* `Sharing.since_run`: where the entries of a cache come from that was empty
* `Sharing.fetched_since_clear_iff`: when they were fetched since it was cleared
* `Sharing.exists_served_across_clear`: a payload that is served in a context that is not its own
-/

namespace Clearance

/-- A view, and the calls that use its cache. -/
structure Sharing where
  view : View
  calls : List Resolving.Call := []

namespace Sharing

/-- What may happen. -/
inductive Event where
  /-- The context changes. -/
  | change (c : Viewing.Change)
  /-- A call takes a step, or someone clears the cache. -/
  | call (e : Resolving.Event)

/-- A view before anyone signed in, without calls. -/
def initial (cacheable : List String) : Sharing := { view := .initial cacheable }

/-- The cache with the calls that use it. -/
def resolving (s : Sharing) : Resolving := ⟨s.view.cache, s.calls⟩

/-- What an event changes; none where it cannot happen. -/
def step (s : Sharing) : Event → Option Sharing
  | .change c => some { s with view := (c.apply s.view).2 }
  | .call e => (s.resolving.step e).map fun r => ⟨⟨s.view.session, r.cache⟩, r.calls⟩

/-- Several events in a row; none where one of them cannot happen. -/
def run (s : Sharing) : List Event → Option Sharing
  | [] => some s
  | e :: rest => (s.step e).bind fun s => s.run rest

/-- Whether an event clears the cache. -/
def clears (s : Sharing) : Event → Bool
  | .change c => c.accepted s.view.session
  | .call .clear => true
  | .call _ => false

variable {s s' s'' : Sharing} {e : Event} {es es' : List Event} {id : String} {f : Fields}

theorem run_append (s : Sharing) (es es' : List Event) :
    s.run (es ++ es') = (s.run es).bind fun s => s.run es' := by
  induction es generalizing s with
  | nil => rfl
  | cons e es ih =>
    rw [List.cons_append, run, run, Option.bind_assoc]
    exact congrArg _ (funext ih)

theorem step_call {e : Resolving.Event} (h : s.step (.call e) = some s') :
    Resolving.Move s.resolving e s'.resolving := by
  obtain ⟨r, hr, rfl⟩ := Option.map_eq_some_iff.mp h
  exact .of_step hr

/-- The cache can be cleared at any time. -/
theorem exists_step_of_clears (he : s.clears e = true) : ∃ s', s.step e = some s' := by
  cases e with
  | change c => exact ⟨_, rfl⟩
  | call e =>
    cases e with
    | clear => exact ⟨_, rfl⟩
    | look | ask | answer => cases he

/-- An event that clears the cache leaves it empty, and the calls as they were. -/
theorem step_of_clears (he : s.clears e = true) (h : s.step e = some s') :
    s'.view.cache.entries = [] ∧ s'.calls = s.calls ∧
      s'.view.cache.cacheable = s.view.cache.cacheable := by
  cases e with
  | change c =>
    obtain rfl := Option.some.inj h
    rw [View.apply_of_accepted he]
    exact ⟨rfl, rfl, rfl⟩
  | call e =>
    cases e with
    | clear =>
      obtain rfl := Option.some.inj h
      exact ⟨rfl, rfl, rfl⟩
    | look | ask | answer => cases he

/-- A change that does not clear the cache changes nothing. -/
theorem step_of_refused {c : Viewing.Change} (h : s.clears (.change c) = false) :
    s.step (.change c) = some s := by
  rw [step, View.apply_of_refused h]

/-! ## Where entries come from -/

/-- The call whose answer an event keeps for an object. -/
def brings (s : Sharing) (id : String) : Event → Option Nat
  | .change _ => none
  | .call e => s.resolving.brings id e

/-- The call whose answer a run has kept for an object, the last one if there are several. -/
def bringer (s : Sharing) (id : String) : List Event → Option Nat
  | [] => none
  | e :: rest => ((s.step e).bind fun s => s.bringer id rest).or (s.brings id e)

theorem bringer_snoc (h : s.run es = some s') (id : String) (e : Event) :
    s.bringer id (es ++ [e]) = (s'.brings id e).or (s.bringer id es) := by
  induction es generalizing s with
  | nil =>
    obtain rfl := Option.some.inj h
    cases hstep : s.step e <;> simp [bringer, hstep]
  | cons e' es ih =>
    obtain ⟨t, ht, hr⟩ := Option.bind_eq_some_iff.mp h
    rw [List.cons_append, bringer, bringer, ht, Option.bind_some, Option.bind_some, ih hr,
      Option.or_assoc]

/-- The fields of an object are those in the last answer that a part of a run has kept for it, an
answer to a call for the object whose source type is kept. -/
def Brought (s s' : Sharing) (es : List Event) (id : String) (f : Fields) (i : Nat) (q : Query) :
    Prop :=
  s.bringer id es = some i ∧ s'.resolving.query? i = some q ∧ q.id = id ∧
    s'.view.cache.isCacheable q.sourceType = true ∧
    ∃ a, .call (.answer i a) ∈ es ∧ a.fields? = some f

/-- The fields of an object came in a part of a run, in which the backend was asked for them. -/
def Fetched (s s' : Sharing) (es : List Event) (id : String) (f : Fields) : Prop :=
  ∃ i q, Brought s s' es id f i q ∧ .call (.ask i) ∈ es

/-- How a run adds to what an empty cache holds. -/
structure Since (s : Sharing) (es : List Event) (s' : Sharing) : Prop where
  run : s.run es = some s'
  cacheable : s'.view.cache.cacheable = s.view.cache.cacheable
  sorted : Keyed.Sorted s'.view.cache.entries
  entries : ∀ id f, (id, f) ∈ s'.view.cache.entries → ∃ i q, Brought s s' es id f i q ∧
    (.call (.ask i) ∈ es ∨ s.calls[i]? = some ⟨q, .asked⟩)
  asked : ∀ i q, s'.calls[i]? = some ⟨q, .asked⟩ →
    .call (.ask i) ∈ es ∨ s.calls[i]? = some ⟨q, .asked⟩

theorem Brought.snoc {i : Nat} {q : Query} (h : Brought s s' es id f i q)
    (hrun : s.run es = some s') (hnone : s'.brings id e = none)
    (hq : ∀ i q, s'.resolving.query? i = some q → s''.resolving.query? i = some q)
    (hc : s''.view.cache.cacheable = s'.view.cache.cacheable) :
    Brought s s'' (es ++ [e]) id f i q := by
  obtain ⟨hi, hqi, hid, hkept, a, ha, hf⟩ := h
  refine ⟨?_, hq i q hqi, hid, ?_, a, List.mem_append_left _ ha, hf⟩
  · rw [bringer_snoc hrun, hnone, Option.none_or, hi]
  · rw [Cache.isCacheable, hc]
    exact hkept

theorem Since.step (h : Since s es s') (hstep : s'.step e = some s'') :
    Since s (es ++ [e]) s'' := by
  have hrun : s.run (es ++ [e]) = some s'' := by
    rw [run_append, h.run, Option.bind_some, Sharing.run, hstep]
    rfl
  have hasked {i : Nat} {q : Query} (ha : s'.calls[i]? = some ⟨q, .asked⟩) :
      .call (.ask i) ∈ es ++ [e] ∨ s.calls[i]? = some ⟨q, .asked⟩ :=
    (h.asked i q ha).imp_left (List.mem_append_left _)
  cases e with
  | change c =>
    obtain rfl := Option.some.inj hstep
    cases hc : c.accepted s'.view.session with
    | true =>
      rw [View.apply_of_accepted hc] at hrun ⊢
      exact ⟨hrun, h.cacheable, List.Pairwise.nil, nofun, fun i q => hasked⟩
    | false =>
      rw [View.apply_of_refused hc] at hrun ⊢
      refine ⟨hrun, h.cacheable, h.sorted, fun id f hf => ?_, fun i q => hasked⟩
      obtain ⟨i, q, hb, ha⟩ := h.entries id f hf
      exact ⟨i, q, hb.snoc h.run rfl (fun _ _ hq => hq) rfl, ha.imp_left (List.mem_append_left _)⟩
  | call e =>
    have hm := step_call hstep
    have hkinds : s''.view.cache.cacheable = s'.view.cache.cacheable := hm.cacheable_eq
    have hq : ∀ i q, s'.resolving.query? i = some q → s''.resolving.query? i = some q :=
      fun _ _ => hm.query?_eq
    refine ⟨hrun, hkinds.trans h.cacheable, hm.sorted_entries h.sorted, fun id f hf => ?_,
      fun i q ha => ?_⟩
    · rcases hm.entry_cases h.sorted hf with ⟨hf, hnone⟩ |
        ⟨i, q, a, rfl, hwaits, hid, hfields, hkept, hbrings⟩
      · obtain ⟨i, q, hb, ha⟩ := h.entries id f hf
        exact ⟨i, q, hb.snoc h.run hnone hq hkinds, ha.imp_left (List.mem_append_left _)⟩
      · -- the entry is the answer that has just been kept
        have hqi : s'.resolving.query? i = some q := by
          rw [Resolving.query?, hwaits, Option.map_some]
        refine ⟨i, q, ⟨?_, hq i q hqi, hid, ?_, a, by simp, hfields⟩, hasked hwaits⟩
        · rw [bringer_snoc h.run]
          show (s'.resolving.brings id (.answer i a)).or _ = _
          rw [hbrings, Option.some_or]
        · rw [Cache.isCacheable, hkinds]
          exact hkept
    · rcases hm.asked_cases ha with ha | rfl
      · exact hasked ha
      · exact .inl (by simp)

/-- A run adds as each of its events does. -/
theorem Since.append (h : Since s es s') (hrun : s'.run es' = some s'') :
    Since s (es ++ es') s'' := by
  induction es' generalizing s' es with
  | nil =>
    obtain rfl := Option.some.inj hrun
    rwa [List.append_nil]
  | cons e es' ih =>
    obtain ⟨t, ht, hr⟩ := Option.bind_eq_some_iff.mp hrun
    have hsince := ih (h.step ht) hr
    rwa [List.append_assoc, List.singleton_append] at hsince

/-- **What an empty cache comes to hold was brought since**, by a call that asked the backend since
or was waiting for it. -/
theorem since_run (hs : s.view.cache.entries = []) (h : s.run es = some s') : Since s es s' := by
  have hnone : Since s [] s := by
    refine ⟨rfl, rfl, ?_, fun id f hf => ?_, fun i q ha => .inr ha⟩
    · rw [hs]
      exact List.Pairwise.nil
    · rw [hs] at hf
      cases hf
  exact hnone.append h

/-! ## What the cache serves -/

/-- A hit of the cache is an entry. -/
theorem mem_entries_of_look {c c' : Cache} {q : Query} {payload : Payload}
    (h : c.look q = (some payload, c')) :
    ∃ f, payload.staticFields = some f ∧ (q.id, f) ∈ c.entries := by
  unfold Cache.look Cache.get at h
  split at h
  · next hf =>
    split at hf
    · next g hg =>
      obtain ⟨rfl, rfl⟩ := Prod.mk.inj hf
      obtain ⟨hp, -⟩ := Prod.mk.inj h
      exact ⟨g, by rw [← Option.some.inj hp]; rfl, Keyed.mem_of_find? hg⟩
    · obtain ⟨rfl, rfl⟩ := Prod.mk.inj hf
      cases (Prod.mk.inj h).1

/-- An answer that comes to an empty cache is kept, if it has fields and their source type is. -/
theorem exists_step_answer {i : Nat} {q : Query} {a : Answer} (hs : s.view.cache.entries = [])
    (hi : s.calls[i]? = some ⟨q, .asked⟩) (ha : a.fields? = some f)
    (hkept : s.view.cache.isCacheable q.sourceType = true) :
    ∃ s', s.step (.call (.answer i a)) = some s' ∧ s'.view.cache.entries = [(q.id, f)] ∧
      s'.calls.length = s.calls.length := by
  have hcache : (s.view.cache.receive q a).2.entries = [(q.id, f)] := by
    rw [Cache.receive, ha]
    simp only [Cache.insert, hkept, if_true, hs]
    rfl
  refine ⟨_, by simp only [step, resolving, Resolving.step, hi]; rfl, hcache, ?_⟩
  exact List.length_modify _ _ _

/-- The only entry of a cache is what a call for its object is served. -/
theorem exists_step_look {q : Query} (hs : s.view.cache.entries = [(q.id, f)]) :
    ∃ s', s.step (.call (.look q)) = some s' ∧ s'.view.cache.entries = [(q.id, f)] ∧
      s'.calls = s.calls ++ [⟨q, .done (q.payload (some f))⟩] := by
  have hfind : s.view.cache.find? q.id = some f := by
    rw [Cache.find?, hs, Keyed.find?_cons, if_pos rfl]
  have hstep : s.step (.call (.look q)) =
      some ⟨⟨s.view.session, { s.view.cache with hits := s.view.cache.hits + 1 }⟩,
        s.calls ++ [⟨q, .done (q.payload (some f))⟩]⟩ := by
    simp only [step, resolving, Resolving.step, Cache.look, Cache.get, hfind]
    rfl
  exact ⟨_, hstep, hs, rfl⟩

/-- **When the entry of an object was fetched since the cache was cleared.**  Take any moment at
which the cache is cleared, by a change of the context that takes place or otherwise, and all that
may happen from there on.  The cache is empty then.

The entry of an object, at any later moment, was brought by a call that asked the backend since then
and got its answer since then, exactly if no call for the object and a source type that is kept was
waiting for the backend when the cache was cleared.  What the cache serves is an entry.  A change
that is refused leaves everything as it was, the context included. -/
theorem fetched_since_clear_iff (he : s.clears e = true) :
    ∃ t, s.step e = some t ∧ t.view.cache.entries = [] ∧
      (∀ id, (∀ after s' f, t.run after = some s' → (id, f) ∈ s'.view.cache.entries →
          Fetched t s' after id f) ↔
        ∀ (i : Nat) q, s.calls[i]? = some ⟨q, .asked⟩ → q.id = id →
          s.view.cache.isCacheable q.sourceType = false) ∧
      (∀ after s' q payload c, t.run after = some s' →
        s'.view.cache.look q = (some payload, c) →
        ∃ f, payload.staticFields = some f ∧ (q.id, f) ∈ s'.view.cache.entries) ∧
      ∀ c, s.clears (.change c) = false → s.step (.change c) = some s := by
  obtain ⟨t, ht⟩ := exists_step_of_clears he
  obtain ⟨hempty, hcalls, hkinds⟩ := step_of_clears he ht
  have hkept (kind : String) : t.view.cache.isCacheable kind = s.view.cache.isCacheable kind := by
    rw [Cache.isCacheable, hkinds, Cache.isCacheable]
  refine ⟨t, ht, hempty, fun id => ⟨fun hall i q hi hid => ?_, fun hnone after s' f hr hf => ?_⟩,
    fun after s' q payload c _ hlook => mem_entries_of_look hlook, fun c hc => step_of_refused hc⟩
  · -- if such a call waits, then its answer may be the next that happens
    refine Bool.of_not_eq_true fun hkind => ?_
    rw [← hcalls] at hi
    rw [← hkept] at hkind
    have ha : Answer.fields? (.ok ⟨some "", none⟩) = some .empty :=
      Answer.fields?_eq_some_iff.mpr ⟨"", rfl, parseObject_of_isBlankText rfl _⟩
    obtain ⟨s', hs', hf, -⟩ := exists_step_answer hempty hi ha hkind
    have hr : t.run [.call (.answer i (.ok ⟨some "", none⟩))] = some s' := by
      rw [run, hs']
      rfl
    have hmem : (q.id, Fields.empty) ∈ s'.view.cache.entries := hf ▸ List.mem_singleton_self _
    obtain ⟨j, q', -, hj⟩ := hall _ s' .empty hr (hid ▸ hmem)
    simp at hj
  · have hsince := since_run hempty hr
    obtain ⟨i, q, hb, hasked | hwaits⟩ := hsince.entries id f hf
    · exact ⟨i, q, hb, hasked⟩
    · obtain ⟨-, -, hid, hkind, -⟩ := hb
      rw [Cache.isCacheable, hsince.cacheable, ← Cache.isCacheable, hkept,
        hnone i q (hcalls ▸ hwaits) hid] at hkind
      cases hkind

/-! ## A call between two contexts -/

/-- A call for an object of a source type that is kept. -/
def trackCall : Query := ⟨"o", "track", [1], none⟩

/-- A call for the same object, of a source type that is not. -/
def sensorCall : Query := ⟨"o", "sensor", [2], none⟩

/-- The answer of a backend to such a call. -/
def trackAnswer : Answer :=
  .ok { payload := some "\x7b\"attrClassification\":\"secret\"\x7d" }

/-- Someone signs in, and the backend is asked for an object. -/
def signedInAndAsked (q : Query) : List Event :=
  [.change (.signIn (some [⟨"secret"⟩])), .call (.look q), .call (.ask 0)]

/-- A second call, from question to answer. -/
def askedAgain : List Event :=
  [.call (.look trackCall), .call (.ask 1), .call (.answer 1 trackAnswer)]

/-- A run whose cache holds one object. -/
theorem exists_entry_of_run (s : Sharing) (es : List Event) (id : String)
    (h : (s.run es).map (fun t => t.view.cache.entries.map Prod.fst) = some [id]) :
    ∃ s' f, s.run es = some s' ∧ (id, f) ∈ s'.view.cache.entries := by
  obtain ⟨s', hs', hid⟩ := Option.map_eq_some_iff.mp h
  obtain ⟨⟨k, f⟩, hf, rfl⟩ := List.mem_map.mp (hid ▸ List.mem_singleton_self id)
  exact ⟨s', f, hs', hf⟩

theorem fetched_since_clear_iff_of_two_calls :
    ∃ s t s' f, (initial ["track"]).run (signedInAndAsked sensorCall) = some s ∧
      s.clears (.change (.narrow {})) = true ∧ s.step (.change (.narrow {})) = some t ∧
      t.run askedAgain = some s' ∧ ("o", f) ∈ s'.view.cache.entries ∧
      Fetched t s' askedAgain "o" f := by
  obtain ⟨s, hbefore, he, hcalls, hkind⟩ :
      ∃ s, (initial ["track"]).run (signedInAndAsked sensorCall) = some s ∧
        s.clears (.change (.narrow {})) = true ∧ s.calls = [⟨sensorCall, .asked⟩] ∧
        s.view.cache.isCacheable "sensor" = false := ⟨_, rfl, rfl, rfl, by decide⟩
  obtain ⟨t, ht, -, hfresh, -⟩ := fetched_since_clear_iff he
  obtain ⟨s', f, h, hf⟩ := exists_entry_of_run (initial ["track"])
    (signedInAndAsked sensorCall ++ .change (.narrow {}) :: askedAgain) "o" (by decide +kernel)
  rw [run_append, hbefore, Option.bind_some, run, ht, Option.bind_some] at h
  refine ⟨s, t, s', f, hbefore, he, ht, h, hf, (hfresh "o").mpr ?_ askedAgain s' f h hf⟩
  intro i q hi _
  rw [hcalls] at hi
  cases List.mem_singleton.mp (List.mem_of_getElem? hi)
  exact hkind

/-- **A payload may be served in a context that is not its own.**  The backend is asked for an
object, the context is narrowed and the cache cleared, and then the answer comes.  It is kept, and
the next call is served from it, although no one has asked the backend since the narrowing. -/
theorem exists_served_across_clear :
    ∃ s t s' f, (initial ["track"]).run (signedInAndAsked trackCall) = some s ∧
      s.clears (.change (.narrow {})) = true ∧ s.step (.change (.narrow {})) = some t ∧
      t.view.cache.entries = [] ∧
      t.run [.call (.answer 0 trackAnswer), .call (.look trackCall)] = some s' ∧
      ("o", f) ∈ s'.view.cache.entries ∧
      s'.calls[1]? = some ⟨trackCall, .done (trackCall.payload (some f))⟩ := by
  obtain ⟨s, t, hbefore, he, ht, hempty, hcalls, hkept⟩ :
      ∃ s t, (initial ["track"]).run (signedInAndAsked trackCall) = some s ∧
        s.clears (.change (.narrow {})) = true ∧ s.step (.change (.narrow {})) = some t ∧
        t.view.cache.entries = [] ∧ t.calls = [⟨trackCall, .asked⟩] ∧
        t.view.cache.isCacheable trackCall.sourceType = true :=
    ⟨_, _, rfl, rfl, rfl, rfl, rfl, by decide⟩
  obtain ⟨f, hf⟩ := Option.isSome_iff_exists.mp
    (by decide +kernel : trackAnswer.fields?.isSome = true)
  have hasked : t.calls[0]? = some ⟨trackCall, .asked⟩ := by rw [hcalls]; rfl
  -- the answer is the only entry of the cleared cache, and the next call finds it
  obtain ⟨u, hu, hentries, hlen⟩ := exists_step_answer hempty hasked hf hkept
  obtain ⟨s', hs', hserved, hall⟩ := exists_step_look hentries
  refine ⟨s, t, s', f, hbefore, he, ht, hempty, ?_, hserved ▸ List.mem_singleton_self _, ?_⟩
  · rw [run, hu, Option.bind_some, run, hs']
    rfl
  · have hone : u.calls.length = 1 := by rw [hlen, hcalls]; rfl
    rw [hall, ← hone, List.getElem?_concat_length]

end Sharing
end Clearance
