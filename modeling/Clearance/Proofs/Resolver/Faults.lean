import Mathlib.Data.List.Induction
import Clearance.Proofs.Payload.Merged
import Clearance.Proofs.Resolver.Calls

/-!
# Answers without fields

The backend may answer with a fault, with an error, with nothing, or with a payload that is no
object.  A call with such an answer returns no static fields and leaves the cache as it was, however
the calls overlap.  So an entry always goes back to an answer that could be read, to a call for the
very object.  The dynamic fields have no part in this: a call returns those of its own record.

## Main definitions

* `Answer.Fails`: the answers without fields, each with its cause
* `Resolving.Decrypted`: fields that an answer in a run had for an object
* `Resolving.Sound`: the invariant of calls that share a cache

## Main results

* `Answer.fields?_eq_some_iff`, `Answer.fields?_eq_none_iff`: which answers have fields
* `Resolving.Move.done_cases`: how a call has come to its end
* `Resolving.Sound.move`, `Resolving.sound_run`: every move keeps the invariant, and so does a run
* `Resolving.faults_leave_no_trace`: what a failing answer does, and what it does not
-/

namespace Clearance

/-! ## Answers with and without fields -/

/-- Blank text is the empty object. -/
theorem parseObject_of_isBlankText {raw : String} (h : Text.isBlankText raw = true)
    (field : String) : parseObject raw field = .ok .empty :=
  parseObject_eq_ok_iff.mpr (.inl ⟨h, rfl⟩)

namespace Answer

variable {a : Answer} {f : Fields}

/-- The answers without fields. -/
inductive Fails : Answer → Prop where
  /-- The pool has not answered. -/
  | fault (f : PoolFault) : Fails (.error f)
  /-- There was an error, whatever came with it. -/
  | error (payload : Option String) (e : String) : Fails (.ok ⟨payload, some e⟩)
  /-- There is nothing in the answer. -/
  | empty : Fails (.ok ⟨none, none⟩)
  /-- The payload is no object. -/
  | unreadable {payload : String} {fault : ObjectFault}
    (h : parseObject payload "decryptedPayload" = .error fault) : Fails (.ok ⟨some payload, none⟩)

theorem fields?_eq_some_iff :
    a.fields? = some f ↔
      ∃ payload, a = .ok ⟨some payload, none⟩ ∧ parseObject payload "decryptedPayload" = .ok f := by
  rcases a with fault | ⟨_ | payload, _ | e⟩
  · simp [fields?]
  · simp [fields?]
  · simp [fields?]
  · cases hp : parseObject payload "decryptedPayload" <;> simp [fields?, hp, Except.toOption]
  · simp [fields?]

/-- **An answer has no fields exactly when it fails.** -/
theorem fields?_eq_none_iff : a.fields? = none ↔ a.Fails := by
  constructor
  · intro h
    rcases a with fault | ⟨_ | payload, _ | e⟩
    · exact .fault fault
    · exact .empty
    · exact .error none e
    · cases hp : parseObject payload "decryptedPayload" with
      | error fault => exact .unreadable hp
      | ok f => simp [fields?, hp, Except.toOption] at h
    · exact .error (some payload) e
  · rintro (⟨fault⟩ | ⟨payload, e⟩ | _ | ⟨hp⟩)
    · rfl
    · cases payload <;> rfl
    · rfl
    · simp [fields?, hp, Except.toOption]

end Answer

namespace Resolving

variable {r r' r'' : Resolving} {e : Event} {es es' : List Event} {i : Nat} {q : Query}
  {p : Payload} {types : List String} {id : String} {f : Fields}

/-! ## How calls end -/

/-- **A call ends with a hit of the cache, or with the answer of the backend**; else it had ended
before. -/
theorem Move.done_cases (h : Move r e r') (hd : r'.calls[i]? = some ⟨q, .done p⟩) :
    r.calls[i]? = some ⟨q, .done p⟩ ∨
      (e = .look q ∧ ∃ f, r.cache.find? q.id = some f ∧ p = q.payload (some f)) ∨
      ∃ a, e = .answer i a ∧ p = q.payload a.fields? := by
  rcases h.call_cases hd with hold | ⟨-, he, hnew⟩ | ⟨-, -, hasked⟩ | ⟨a, -, he, hdone⟩
  · exact .inl hold
  · rcases hnew with hmissed | ⟨f, hf, hdone⟩
    · cases hmissed
    · cases hdone
      exact .inr (.inl ⟨he, f, hf, rfl⟩)
  · cases hasked
  · cases hdone
    exact .inr (.inr ⟨a, he, rfl⟩)

/-- A call that has ended stays as it is. -/
theorem Move.done_eq (h : Move r e r') (hd : r.calls[i]? = some ⟨q, .done p⟩) :
    r'.calls[i]? = some ⟨q, .done p⟩ := by
  have hq : r'.query? i = some q := h.query?_eq (by rw [query?, hd, Option.map_some])
  obtain ⟨⟨_, stage⟩, hc, rfl⟩ := Option.map_eq_some_iff.mp hq
  -- it is neither new nor has it gone on
  rcases h.call_cases hc with hold | ⟨hnone, -⟩ | ⟨hmissed, -⟩ | ⟨a, hasked, -⟩
  · rw [hc, ← hold, hd]
  · rw [hd] at hnone
    cases hnone
  · rw [hd] at hmissed
    cases hmissed
  · rw [hd] at hasked
    cases hasked

/-! ## Runs -/

/-- An empty cache for some source types, and no calls. -/
def initial (types : List String) : Resolving := { cache := .ofTypes types }

theorem run_append (r : Resolving) (es es' : List Event) :
    r.run (es ++ es') = (r.run es).bind fun r => r.run es' := by
  induction es generalizing r with
  | nil => rfl
  | cons e es ih =>
    rw [List.cons_append, run, run, Option.bind_assoc]
    exact congrArg _ (funext ih)

theorem run_snoc (r : Resolving) (es : List Event) (e : Event) :
    r.run (es ++ [e]) = (r.run es).bind fun r => r.step e := by
  rw [run_append]
  congr 1
  funext t
  exact Option.bind_fun_some (t.step e)

/-- What a call has returned does not change. -/
theorem done_run (h : r.run es = some r') (hd : r.calls[i]? = some ⟨q, .done p⟩) :
    r'.calls[i]? = some ⟨q, .done p⟩ := by
  induction es generalizing r with
  | nil =>
    obtain rfl := Option.some.inj h
    exact hd
  | cons e es ih =>
    obtain ⟨s, hs, hrun⟩ := Option.bind_eq_some_iff.mp h
    exact ih hrun ((Move.of_step hs).done_eq hd)

/-- In a run that has led to a state, some call for the object was answered, without an error and in
a source type that is kept, and the payload of the answer is these fields. -/
def Decrypted (types : List String) (es : List Event) (r : Resolving) (id : String) (f : Fields) :
    Prop :=
  ∃ i q payload, .answer i (.ok ⟨some payload, none⟩) ∈ es ∧ r.query? i = some q ∧ q.id = id ∧
    (Cache.ofTypes types).isCacheable q.sourceType = true ∧
    parseObject payload "decryptedPayload" = .ok f

theorem Decrypted.snoc (h : Decrypted types es r id f) (hm : Move r e r') :
    Decrypted types (es ++ [e]) r' id f := by
  obtain ⟨i, q, payload, ha, hq, hid, hkept, hf⟩ := h
  exact ⟨i, q, payload, List.mem_append_left _ ha, hm.query?_eq hq, hid, hkept, hf⟩

/-- The invariant of calls that share a cache: there is one call for each that was begun, every
entry was decrypted, and a call returns the dynamic fields of its own record. -/
structure Sound (types : List String) (es : List Event) (r : Resolving) : Prop where
  cacheable : r.cache.cacheable = (Cache.ofTypes types).cacheable
  queries : r.calls.map (·.query) = es.filterMap Event.query?
  entries : ∀ id f, (id, f) ∈ r.cache.entries → Decrypted types es r id f
  dynamic : ∀ (i : Nat) (q : Query) (p : Payload), r.calls[i]? = some ⟨q, .done p⟩ →
    p.dynamicFields = parseDynamic q.dynamic

theorem sound_initial (types : List String) : Sound types [] (initial types) where
  cacheable := rfl
  queries := rfl
  entries _ _ h := by cases h
  dynamic _ _ _ h := by simp [initial] at h

/-- Every move keeps the invariant. -/
theorem Sound.move (h : Sound types es r) (hm : Move r e r') : Sound types (es ++ [e]) r' where
  cacheable := hm.cacheable_eq.trans h.cacheable
  queries := by
    rw [hm.queries_eq, h.queries, List.filterMap_append]
    cases e <;> rfl
  entries id f hf := by
    rcases hm.mem_entries_cases hf with hold | ⟨i, q, a, rfl, hasked, hid, hfields, hkept⟩
    · exact (h.entries id f hold).snoc hm
    · -- the entry comes with an answer that can be read
      obtain ⟨payload, rfl, hparse⟩ := Answer.fields?_eq_some_iff.mp hfields
      have hq : r.query? i = some q := by rw [query?, hasked, Option.map_some]
      rw [Cache.isCacheable, h.cacheable, ← Cache.isCacheable] at hkept
      exact ⟨i, q, payload, by simp, hm.query?_eq hq, hid, hkept, hparse⟩
  dynamic i q p hd := by
    rcases hm.done_cases hd with hold | ⟨-, f, -, rfl⟩ | ⟨a, -, rfl⟩
    · exact h.dynamic i q p hold
    · rfl
    · rfl

/-- **Every run keeps the invariant.** -/
theorem sound_run (h : (initial types).run es = some r) : Sound types es r := by
  -- from the end, so that the last move meets a run that is sound already
  induction es using List.reverseRecOn generalizing r with
  | nil =>
    obtain rfl := Option.some.inj h
    exact sound_initial types
  | append_singleton es e ih =>
    rw [run_snoc] at h
    obtain ⟨s, hs, hlast⟩ := Option.bind_eq_some_iff.mp h
    exact (ih hs).move (.of_step hlast)

/-- A failing answer ends its call without static fields, and leaves the cache as it was. -/
theorem Move.of_fails {a : Answer} (h : Move r (.answer i a) r') (ha : a.Fails) :
    ∃ q, r.calls[i]? = some ⟨q, .asked⟩ ∧ r'.cache = r.cache ∧
      r'.calls[i]? = some ⟨q, .done ⟨none, parseDynamic q.dynamic⟩⟩ := by
  have hnone := Answer.fields?_eq_none_iff.mpr ha
  cases h with
  | keep asked fields =>
    rw [hnone] at fields
    cases fields
  | @pass _ q _ asked =>
    refine ⟨q, asked, rfl, ?_⟩
    rw [getElem?_setStage_self asked, hnone]
    rfl

/-- **A failing answer leaves no trace.**  Take any run of calls that share a cache, with lookups,
questions and answers of the calls and clearings of the cache in any order, and any answers.  Every
entry goes back to an answer to a call for its very object, without an error and in a source type
that is kept, whose payload is the fields of the entry.  An answer that fails, with a fault, with an
error, without a payload or with one that is no object, ends its call without static fields and
leaves the cache as it was; blank text is no failure but the empty object.  And every call that has
ended, in whatever way, returns the dynamic fields of its own record. -/
theorem faults_leave_no_trace (h : (initial types).run es = some r) :
    (∀ id f, (id, f) ∈ r.cache.entries → Decrypted types es r id f) ∧
    (∀ before i a after, es = before ++ .answer i a :: after → a.Fails →
      ∃ s s' q, (initial types).run before = some s ∧ s.step (.answer i a) = some s' ∧
        s.calls[i]? = some ⟨q, .asked⟩ ∧ s'.cache = s.cache ∧
        r.calls[i]? = some ⟨q, .done ⟨none, parseDynamic q.dynamic⟩⟩) ∧
    (∀ payload, Text.isBlankText payload = true →
      Answer.fields? (.ok ⟨some payload, none⟩) = some .empty) ∧
    r.calls.map (·.query) = es.filterMap Event.query? ∧
    ∀ (i : Nat) (q : Query) (p : Payload), r.calls[i]? = some ⟨q, .done p⟩ →
      p.dynamicFields = parseDynamic q.dynamic := by
  have hsound := sound_run h
  refine ⟨hsound.entries, ?_, ?_, hsound.queries, hsound.dynamic⟩
  · rintro before i a after rfl ha
    rw [run_append] at h
    obtain ⟨s, hs, hrest⟩ := Option.bind_eq_some_iff.mp h
    obtain ⟨s', hstep, hafter⟩ := Option.bind_eq_some_iff.mp hrest
    obtain ⟨q, hasked, hcache, hdone⟩ := (Move.of_step hstep).of_fails ha
    -- what the call has returned is still there at the end of the run
    exact ⟨s, s', q, hs, hstep, hasked, hcache, done_run hafter hdone⟩
  · intro payload hblank
    exact Answer.fields?_eq_some_iff.mpr ⟨payload, rfl, parseObject_of_isBlankText hblank _⟩

/-- Two calls for one object that overlap.  The later one is answered first, and with fields; the
other one is denied, though a payload came along.  A third call finds what is kept. -/
def deniedLate : List Event :=
  [.look ⟨"o", "track", [1], some "\x7b\"lat\":1\x7d"⟩, .look ⟨"o", "track", [1], none⟩, .ask 0,
    .ask 1, .answer 1 (.ok ⟨some "\x7b\"name\":\"alpha\"\x7d", none⟩),
    .answer 0 (.ok ⟨some "\x7b\x7d", some "denied"⟩), .look ⟨"o", "track", [1], some "[]"⟩]

theorem faults_leave_no_trace_denied_late :
    ∃ r f, (initial ["track"]).run deniedLate = some r ∧ r.cache.entries = [("o", f)] ∧
      Decrypted ["track"] deniedLate r "o" f ∧
      r.calls[0]? = some ⟨⟨"o", "track", [1], some "\x7b\"lat\":1\x7d"⟩,
        .done ⟨none, parseDynamic (some "\x7b\"lat\":1\x7d")⟩⟩ := by
  have hids : ((initial ["track"]).run deniedLate).map (·.cache.entries.map Prod.fst) =
      some ["o"] := by decide +kernel
  obtain ⟨r, hr, hfst⟩ := Option.map_eq_some_iff.mp hids
  obtain ⟨⟨id, f⟩, hentries, rfl⟩ := List.map_eq_singleton_iff.mp hfst
  obtain ⟨hdecrypted, hfails, -, hqueries, -⟩ := faults_leave_no_trace hr
  refine ⟨r, f, hr, hentries, hdecrypted _ f (by simp [hentries]), ?_⟩
  obtain ⟨_, _, q, -, -, -, -, hdone⟩ :=
    hfails (deniedLate.take 5) 0 _ (deniedLate.drop 6) rfl (.error _ "denied")
  -- what the call asks for is what the first event says
  have hq : (r.calls.map (·.query))[0]? = some q := by
    rw [List.getElem?_map, hdone, Option.map_some]
  rw [hqueries] at hq
  obtain rfl := Option.some.inj hq
  exact hdone

end Resolving
end Clearance
