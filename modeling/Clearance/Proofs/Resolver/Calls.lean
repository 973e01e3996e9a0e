import Clearance.Proofs.Json.Keyed
import Clearance.Resolver

/-!
# The moves of calls that share a cache

A call asks the cache, then the backend, and keeps the answer; between these steps other calls may
take theirs, and the cache may be cleared.  A move is a step together with the way in which it
turned out.  Two questions are asked of a step: where an entry of the cache comes from, and how a
call has come to be where it is.

## Main definitions

* `Resolving.Move`: the ways in which a step can turn out
* `Resolving.query?`: what a call asks for
* `Resolving.brings`: whether the answer to a call is kept

## Main results

* `Resolving.Move.of_step`: what an event changes is one of its moves
* `Resolving.Move.mem_entries_cases`: an entry was there, or comes with an answer
* `Resolving.Move.entry_cases`: and it tells which, since an object has one entry
* `Resolving.Move.calls_cases`, `Resolving.Move.call_cases`: what a move does to the calls, and how
  one of them has come to be where it is
-/

namespace Clearance

/-- A call returns what is in the answer, whether that is kept or not. -/
theorem Cache.fst_receive (c : Cache) (q : Query) (a : Answer) :
    (c.receive q a).1 = q.payload a.fields? := by
  unfold Cache.receive
  cases a.fields? <;> rfl

namespace Resolving

variable {r r' : Resolving} {e : Event} {es : List Event} {i : Nat} {q : Query}

/-- What a call asks for. -/
def query? (r : Resolving) (i : Nat) : Option Query := r.calls[i]?.map (·.query)

/-- The ways in which a step can turn out. -/
inductive Move (r : Resolving) : Event → Resolving → Prop where
  /-- The cache has the fields. -/
  | hit {q : Query} {f : Fields} (found : r.cache.find? q.id = some f) :
    Move r (.look q)
      { cache := { r.cache with hits := r.cache.hits + 1 }
        calls := r.calls ++ [⟨q, .done (q.payload (some f))⟩] }
  /-- The cache does not have them. -/
  | miss {q : Query} (absent : r.cache.find? q.id = none) :
    Move r (.look q)
      { cache := { r.cache with misses := r.cache.misses + 1 }, calls := r.calls ++ [⟨q, .missed⟩] }
  /-- The backend is asked. -/
  | ask {i : Nat} {q : Query} (missed : r.calls[i]? = some ⟨q, .missed⟩) :
    Move r (.ask i) (r.setStage i .asked)
  /-- The answer has fields, and they are kept. -/
  | keep {i : Nat} {q : Query} {a : Answer} {f : Fields} (asked : r.calls[i]? = some ⟨q, .asked⟩)
    (fields : a.fields? = some f) (cacheable : r.cache.isCacheable q.sourceType = true) :
    Move r (.answer i a)
      (({ r with
          cache :=
            { r.cache with
              entries := Keyed.insert q.id f r.cache.entries
              inserts := r.cache.inserts + 1 } } : Resolving).setStage i
        (.done (q.payload (some f))))
  /-- The answer has no fields, or they are not kept. -/
  | pass {i : Nat} {q : Query} {a : Answer} (asked : r.calls[i]? = some ⟨q, .asked⟩)
    (unkept : a.fields? = none ∨ r.cache.isCacheable q.sourceType = false) :
    Move r (.answer i a) (r.setStage i (.done (q.payload a.fields?)))
  /-- The cache is cleared. -/
  | clear : Move r .clear { r with cache := r.cache.clear }

/-- **What an event changes is one of its moves.** -/
theorem Move.of_step (h : r.step e = some r') : Move r e r' := by
  cases e with
  | look q =>
    simp only [step, Cache.look, Cache.get] at h
    cases hf : r.cache.find? q.id with
    | some f =>
      rw [hf] at h
      obtain rfl := Option.some.inj h
      exact .hit hf
    | none =>
      rw [hf] at h
      obtain rfl := Option.some.inj h
      exact .miss hf
  | ask i =>
    simp only [step] at h
    split at h
    · next q hc =>
      obtain rfl := Option.some.inj h
      exact .ask hc
    · cases h
  | answer i a =>
    simp only [step] at h
    split at h
    · next q hc =>
      obtain rfl := Option.some.inj h
      unfold Cache.receive
      split
      · next f hf =>
        cases hk : r.cache.isCacheable q.sourceType with
        | true =>
          simp only [Cache.insert, hk, if_true]
          exact .keep hc hf hk
        | false =>
          simp only [Cache.insert, hk, Bool.false_eq_true, if_false]
          exact hf ▸ .pass hc (.inr hk)
      · next hf => exact hf ▸ .pass hc (.inl hf)
    · cases h
  | clear =>
    obtain rfl := Option.some.inj h
    exact .clear

/-! ## Entries -/

/-- **An entry was there before, or it comes with an answer to a call for its object.** -/
theorem Move.mem_entries_cases (h : Move r e r') {id : String} {f : Fields}
    (hf : (id, f) ∈ r'.cache.entries) :
    (id, f) ∈ r.cache.entries ∨
      ∃ i q a, e = .answer i a ∧ r.calls[i]? = some ⟨q, .asked⟩ ∧ q.id = id ∧
        a.fields? = some f ∧ r.cache.isCacheable q.sourceType = true := by
  cases h with
  | @keep i q a f' asked fields cacheable =>
    rcases Keyed.eq_or_mem_of_mem_insert hf with h | h
    · obtain ⟨rfl, rfl⟩ : id = q.id ∧ f = f' := by simpa using h
      exact .inr ⟨i, q, a, rfl, asked, rfl, fields, cacheable⟩
    · exact .inl h
  | clear => cases hf
  | hit | miss | ask | pass => exact .inl hf

/-- Entries stay in order. -/
theorem Move.sorted_entries (h : Move r e r') (hs : Keyed.Sorted r.cache.entries) :
    Keyed.Sorted r'.cache.entries := by
  cases h with
  | keep => exact Keyed.sorted_insert _ _ hs
  | clear => exact List.Pairwise.nil
  | hit | miss | ask | pass => exact hs

/-- The call whose answer an event keeps for an object. -/
def brings (r : Resolving) (id : String) : Event → Option Nat
  | .answer i a =>
    match r.calls[i]? with
    | some ⟨q, .asked⟩ =>
      if q.id = id ∧ a.fields?.isSome ∧ r.cache.isCacheable q.sourceType then some i else none
    | _ => none
  | .look _ | .ask _ | .clear => none

/-- **An entry was there before and none is kept for its object, or it comes with the answer that is
kept.** -/
theorem Move.entry_cases (h : Move r e r') (hs : Keyed.Sorted r.cache.entries) {id : String}
    {f : Fields} (hf : (id, f) ∈ r'.cache.entries) :
    ((id, f) ∈ r.cache.entries ∧ r.brings id e = none) ∨
      ∃ i q a, e = .answer i a ∧ r.calls[i]? = some ⟨q, .asked⟩ ∧ q.id = id ∧
        a.fields? = some f ∧ r.cache.isCacheable q.sourceType = true ∧ r.brings id e = some i := by
  cases h with
  | @keep i q a g asked fields cacheable =>
    have hsorted := Keyed.sorted_insert q.id g hs
    have hfind : Keyed.find? id (Keyed.insert q.id g r.cache.entries) = some f :=
      hsorted.mem_iff.mp hf
    rw [Keyed.find?_insert _ _ _ hs] at hfind
    by_cases hid : id = q.id
    · rw [if_pos hid] at hfind
      obtain rfl := Option.some.inj hfind
      exact .inr ⟨i, q, a, rfl, asked, hid.symm, fields, cacheable,
        by simp [brings, asked, hid, fields, cacheable]⟩
    · rw [if_neg hid] at hfind
      exact .inl ⟨hs.mem_iff.mpr hfind, by simp [brings, asked, Ne.symm hid]⟩
  | @pass i q a asked unkept =>
    refine .inl ⟨hf, ?_⟩
    rcases unkept with hnone | hkind
    · simp [brings, asked, hnone]
    · simp [brings, asked, hkind]
  | clear => cases hf
  | hit | miss | ask => exact .inl ⟨hf, rfl⟩

/-! ## Calls -/

theorem getElem?_setStage (r : Resolving) (i j : Nat) (stage : Stage) :
    (r.setStage i stage).calls[j]? =
      r.calls[j]?.map fun c => if i = j then { c with stage := stage } else c := by
  rw [setStage, List.getElem?_modify]
  rfl

theorem getElem?_setStage_self {c : Call} (h : r.calls[i]? = some c) (stage : Stage) :
    (r.setStage i stage).calls[i]? = some ⟨c.query, stage⟩ := by
  rw [getElem?_setStage, h, Option.map_some, if_pos rfl]

theorem getElem?_setStage_of_ne {j : Nat} (h : i ≠ j) (stage : Stage) :
    (r.setStage i stage).calls[j]? = r.calls[j]? := by
  rw [getElem?_setStage]
  simp [h]

@[simp]
theorem map_query_setStage (r : Resolving) (i : Nat) (stage : Stage) :
    (r.setStage i stage).calls.map (·.query) = r.calls.map (·.query) := by
  refine List.ext_getElem? fun j => ?_
  rw [List.getElem?_map, getElem?_setStage, List.getElem?_map, Option.map_map]
  congr 1
  funext c
  simp only [Function.comp_apply]
  split <;> rfl

/-- **What a move does to the calls**: a new one has hit or missed the cache, or one of them goes on
to the backend or to its end, or nothing happens to them. -/
theorem Move.calls_cases (h : Move r e r') :
    (∃ q stage, e = .look q ∧ r'.calls = r.calls ++ [⟨q, stage⟩] ∧
      (stage = .missed ∨ ∃ f, r.cache.find? q.id = some f ∧ stage = .done (q.payload (some f)))) ∨
    (∃ j q, e = .ask j ∧ r.calls[j]? = some ⟨q, .missed⟩ ∧ r'.calls = (r.setStage j .asked).calls) ∨
    (∃ j q a, e = .answer j a ∧ r.calls[j]? = some ⟨q, .asked⟩ ∧
      r'.calls = (r.setStage j (.done (q.payload a.fields?))).calls) ∨
    e = .clear ∧ r'.calls = r.calls := by
  cases h with
  | @hit q f found => exact .inl ⟨q, _, rfl, rfl, .inr ⟨f, found, rfl⟩⟩
  | @miss q absent => exact .inl ⟨q, _, rfl, rfl, .inl rfl⟩
  | @ask j q missed => exact .inr (.inl ⟨j, q, rfl, missed, rfl⟩)
  | @keep j q a f asked fields =>
    refine .inr (.inr (.inl ⟨j, q, a, rfl, asked, ?_⟩))
    rw [fields]
    rfl
  | @pass j q a asked => exact .inr (.inr (.inl ⟨j, q, a, rfl, asked, rfl⟩))
  | clear => exact .inr (.inr (.inr ⟨rfl, rfl⟩))

/-- **How a call has come to be where it is**: it was there before, or it is new, or it has just
gone on. -/
theorem Move.call_cases {stage : Stage} (h : Move r e r')
    (hc : r'.calls[i]? = some ⟨q, stage⟩) :
    r.calls[i]? = some ⟨q, stage⟩ ∨
    (r.calls[i]? = none ∧ e = .look q ∧
      (stage = .missed ∨ ∃ f, r.cache.find? q.id = some f ∧ stage = .done (q.payload (some f)))) ∨
    (r.calls[i]? = some ⟨q, .missed⟩ ∧ e = .ask i ∧ stage = .asked) ∨
    ∃ a, r.calls[i]? = some ⟨q, .asked⟩ ∧ e = .answer i a ∧
      stage = .done (q.payload a.fields?) := by
  rcases h.calls_cases with ⟨q', stage', rfl, hr, hstage⟩ | ⟨j, q', rfl, hj, hr⟩ |
    ⟨j, q', a, rfl, hj, hr⟩ | ⟨-, hr⟩
  · rw [hr, List.getElem?_append] at hc
    split at hc
    · exact .inl hc
    · next hlen =>
      -- the call is the new one
      cases List.mem_singleton.mp (List.mem_of_getElem? hc)
      exact .inr (.inl ⟨List.getElem?_eq_none (Nat.le_of_not_lt hlen), rfl, hstage⟩)
  · rw [hr] at hc
    by_cases hij : j = i
    · subst hij
      rw [getElem?_setStage_self hj] at hc
      cases hc
      exact .inr (.inr (.inl ⟨hj, rfl, rfl⟩))
    · rw [getElem?_setStage_of_ne hij] at hc
      exact .inl hc
  · rw [hr] at hc
    by_cases hij : j = i
    · subst hij
      rw [getElem?_setStage_self hj] at hc
      cases hc
      exact .inr (.inr (.inr ⟨a, hj, rfl, rfl⟩))
    · rw [getElem?_setStage_of_ne hij] at hc
      exact .inl hc
  · rw [hr] at hc
    exact .inl hc

/-- **A call that waits for the backend did so before, or has just asked it.** -/
theorem Move.asked_cases (h : Move r e r') (ha : r'.calls[i]? = some ⟨q, .asked⟩) :
    r.calls[i]? = some ⟨q, .asked⟩ ∨ e = .ask i := by
  rcases h.call_cases ha with hold | ⟨-, -, hnew⟩ | ⟨-, he, -⟩ | ⟨a, -, -, hdone⟩
  · exact .inl hold
  · rcases hnew with hmissed | ⟨f, -, hdone⟩
    · cases hmissed
    · cases hdone
  · exact .inr he
  · cases hdone

/-- The query of an event that begins a call. -/
def Event.query? : Event → Option Query
  | .look q => some q
  | _ => none

/-- The calls are those that were begun, in this order. -/
theorem Move.queries_eq (h : Move r e r') :
    r'.calls.map (·.query) = r.calls.map (·.query) ++ e.query?.toList := by
  rcases h.calls_cases with ⟨q', stage, rfl, hr, -⟩ | ⟨j, q', rfl, -, hr⟩ |
    ⟨j, q', a, rfl, -, hr⟩ | ⟨rfl, hr⟩
  · simp [hr, Event.query?]
  · simp [hr, Event.query?]
  · simp [hr, Event.query?]
  · simp [hr, Event.query?]

/-- What a call asks for does not change. -/
theorem Move.query?_eq (h : Move r e r') (hq : r.query? i = some q) : r'.query? i = some q := by
  rw [query?, ← List.getElem?_map] at hq ⊢
  rw [h.queries_eq, List.getElem?_append_left (List.getElem?_eq_some_iff.mp hq).1, hq]

/-- What source types are kept does not change. -/
theorem Move.cacheable_eq (h : Move r e r') : r'.cache.cacheable = r.cache.cacheable := by
  cases h <;> rfl

end Resolving
end Clearance
