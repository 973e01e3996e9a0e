import Mathlib.Tactic.Choose
import Clearance.Proofs.Resolver.Calls

/-!
# Resolving with and without a cache

A resolver serves one call after the other, and its cache is cleared now and then.  Where the
backend answers by the ciphertext alone, and an object has one ciphertext, what the cache has of an
object is what the backend would answer.  So the cache cannot be noticed in what a call returns.
What it saves is the backend: once a call of a cacheable type has returned static fields, the
backend is not asked for that object again before the cache is cleared.

## Main definitions

* `Cache.Turn`, `Cache.play`: calls and clearings, one after the other
* `Cache.Served`, `Cache.serve`: what came of a call, and whether the backend was asked
* `Cache.Agrees`: the invariant that ties the entries to the answers of the backend

## Main results

* `Cache.resolve_eq_serve`: serving a call is resolving it
* `Cache.fst_resolve`, `Cache.find?_resolve`: what a call returns and what it leaves
* `Cache.Agrees.turn`, `Cache.Agrees.play`: every turn keeps the invariant, and so does a run
* `Cache.isSome_find?_play`: what is in the cache stays there until it is cleared
* `Cache.transparent_and_saving`: the cache cannot be noticed, and it saves the backend
-/

namespace Clearance.Cache

/-! ## Calls and clearings in a row -/

/-- What may happen to a resolver that serves one call after the other. -/
inductive Turn where
  | call (q : Query)
  | clear

/-- What a turn leaves in the cache. -/
def turn (backend : List UInt8 → Answer) (c : Cache) : Turn → Cache
  | .call q => (c.resolve backend q).2
  | .clear => c.clear

/-- What several turns leave in the cache, oldest first. -/
def play (backend : List UInt8 → Answer) (c : Cache) (ts : List Turn) : Cache :=
  ts.foldl (turn backend) c

/-- What came of a call: its payload, and the answer of the backend if that was asked. -/
structure Served where
  payload : Payload
  answer? : Option Answer

/-- A call, with a record of what came of it. -/
def serve (backend : List UInt8 → Answer) (c : Cache) (q : Query) : Served × Cache :=
  match c.look q with
  | (some payload, c) => (⟨payload, none⟩, c)
  | (none, c) =>
    let answer := backend q.ciphertext
    let (payload, c) := c.receive q answer
    (⟨payload, some answer⟩, c)

variable {backend : List UInt8 → Answer} {c : Cache} {q : Query} {f : Fields} {id : String}
  {t : Turn} {ts : List Turn}

/-- **Serving a call is resolving it**, the record apart. -/
theorem resolve_eq_serve (backend : List UInt8 → Answer) (c : Cache) (q : Query) :
    c.resolve backend q = ((c.serve backend q).1.payload, (c.serve backend q).2) := by
  unfold resolve serve
  rcases c.look q with ⟨_ | payload, c'⟩ <;> rfl

/-! ## What a lookup and an answer leave -/

/-- A lookup is counted, and leaves the cache as it was. -/
theorem look_eq (c : Cache) (q : Query) :
    c.look q = ((c.find? q.id).map fun f => q.payload (some f), (c.look q).2) := by
  unfold look get
  cases c.find? q.id <;> rfl

@[simp]
theorem entries_look (c : Cache) (q : Query) : (c.look q).2.entries = c.entries := by
  unfold look get
  cases c.find? q.id <;> rfl

@[simp]
theorem cacheable_look (c : Cache) (q : Query) : (c.look q).2.cacheable = c.cacheable := by
  unfold look get
  cases c.find? q.id <;> rfl

@[simp]
theorem cacheable_receive (c : Cache) (q : Query) (a : Answer) :
    (c.receive q a).2.cacheable = c.cacheable := by
  unfold receive insert
  cases a.fields? with
  | none => rfl
  | some f => cases c.isCacheable q.sourceType <;> rfl

theorem sorted_receive (h : Keyed.Sorted c.entries) (q : Query) (a : Answer) :
    Keyed.Sorted (c.receive q a).2.entries := by
  unfold receive insert
  cases a.fields? with
  | none => exact h
  | some f =>
    cases c.isCacheable q.sourceType with
    | false => exact h
    | true => exact Keyed.sorted_insert _ _ h

/-- The fields of an answer replace what the cache had, if they are kept. -/
theorem find?_receive (h : Keyed.Sorted c.entries) (q : Query) (a : Answer) (id : String) :
    (c.receive q a).2.find? id =
      if id = q.id ∧ c.isCacheable q.sourceType = true then a.fields?.or (c.find? id)
      else c.find? id := by
  unfold receive
  cases a.fields? with
  | none => simp
  | some f =>
    cases hk : c.isCacheable q.sourceType with
    | false => simp [insert, hk]
    | true => simp [insert, hk, find?, Keyed.find?_insert _ _ _ h]

/-! ## What a call returns and leaves -/

/-- The backend is not asked for what the cache has. -/
theorem serve_of_hit (h : c.find? q.id = some f) :
    c.serve backend q = (⟨q.payload (some f), none⟩, (c.look q).2) := by
  rw [serve, look_eq, h]
  rfl

/-- The backend is asked for what the cache does not have. -/
theorem serve_of_miss (h : c.find? q.id = none) :
    c.serve backend q =
      (⟨q.payload (backend q.ciphertext).fields?, some (backend q.ciphertext)⟩,
        ((c.look q).2.receive q (backend q.ciphertext)).2) := by
  rw [serve, look_eq, h]
  simp only [Option.map_none, fst_receive]

/-- A call returns what the cache has, else what is in the answer of the backend. -/
theorem fst_resolve (backend : List UInt8 → Answer) (c : Cache) (q : Query) :
    (c.resolve backend q).1 = q.payload ((c.find? q.id).or (backend q.ciphertext).fields?) := by
  rw [resolve_eq_serve]
  cases h : c.find? q.id with
  | some f => rw [serve_of_hit h]; rfl
  | none => rw [serve_of_miss h]; rfl

/-- A call of a source type that is kept leaves what it has returned, and all other objects are left
as they were. -/
theorem find?_resolve (h : Keyed.Sorted c.entries) (q : Query) (id : String) :
    (c.resolve backend q).2.find? id =
      if id = q.id ∧ c.isCacheable q.sourceType = true then (c.resolve backend q).1.staticFields
      else c.find? id := by
  have hlook : (c.look q).2.find? id = c.find? id := by rw [find?, entries_look, find?]
  rw [fst_resolve, resolve_eq_serve]
  cases hf : c.find? q.id with
  | some f =>
    rw [serve_of_hit hf]
    split
    · next hid => rw [hlook, hid.1, hf]; rfl
    · exact hlook
  | none =>
    rw [serve_of_miss hf]
    rw [← entries_look c q] at h
    rw [find?_receive h, hlook, isCacheable, cacheable_look, ← isCacheable]
    split
    · next hid => rw [hid.1, hf, Option.or_none]; rfl -- without an entry the answer decides
    · rfl

theorem cacheable_turn (backend : List UInt8 → Answer) (c : Cache) (t : Turn) :
    (c.turn backend t).cacheable = c.cacheable := by
  cases t with
  | clear => rfl
  | call q =>
    rw [turn, resolve_eq_serve]
    cases h : c.find? q.id with
    | some f => rw [serve_of_hit h, cacheable_look]
    | none => rw [serve_of_miss h, cacheable_receive, cacheable_look]

theorem sorted_ofTypes (types : List String) : Keyed.Sorted (ofTypes types).entries :=
  List.Pairwise.nil

theorem sorted_turn (h : Keyed.Sorted c.entries) (t : Turn) :
    Keyed.Sorted (c.turn backend t).entries := by
  cases t with
  | clear => exact List.Pairwise.nil
  | call q =>
    rw [turn, resolve_eq_serve]
    rw [← entries_look c q] at h
    cases hf : c.find? q.id with
    | some f => rwa [serve_of_hit hf]
    | none =>
      rw [serve_of_miss hf]
      exact sorted_receive h q _

/-! ## Runs -/

theorem cacheable_play (backend : List UInt8 → Answer) (c : Cache) (ts : List Turn) :
    (c.play backend ts).cacheable = c.cacheable := by
  induction ts generalizing c with
  | nil => rfl
  | cons t ts ih => exact (ih (c.turn backend t)).trans (cacheable_turn backend c t)

theorem sorted_play (h : Keyed.Sorted c.entries) (ts : List Turn) :
    Keyed.Sorted (c.play backend ts).entries := by
  induction ts generalizing c with
  | nil => exact h
  | cons t ts ih => exact ih (sorted_turn h t)

/-- A turn is about the ciphertext that its object has. -/
def Turn.Matches (ciphertextOf : String → List UInt8) (t : Turn) : Prop :=
  ∀ q, t = .call q → q.ciphertext = ciphertextOf q.id

/-- What the cache has of an object is what the backend answers to its ciphertext. -/
structure Agrees (backend : List UInt8 → Answer) (ciphertextOf : String → List UInt8) (c : Cache) :
    Prop where
  sorted : Keyed.Sorted c.entries
  fields : ∀ id f, c.find? id = some f → (backend (ciphertextOf id)).fields? = some f

variable {ciphertextOf : String → List UInt8}

theorem agrees_of_empty (h : c.entries = []) : c.Agrees backend ciphertextOf where
  sorted := by
    rw [h]
    exact List.Pairwise.nil
  fields id f hf := by
    rw [find?, h] at hf
    cases hf

/-- **A call returns what is in the answer of the backend**, asked or not. -/
theorem Agrees.fst_resolve (h : c.Agrees backend ciphertextOf)
    (hq : q.ciphertext = ciphertextOf q.id) :
    (c.resolve backend q).1 = q.payload (backend q.ciphertext).fields? := by
  rw [Cache.fst_resolve]
  cases hf : c.find? q.id with
  | some f => rw [hq, h.fields _ _ hf]; rfl
  | none => rfl

/-- Every turn keeps the invariant. -/
theorem Agrees.turn (h : c.Agrees backend ciphertextOf) (ht : t.Matches ciphertextOf) :
    (c.turn backend t).Agrees backend ciphertextOf := by
  refine ⟨sorted_turn h.sorted t, ?_⟩
  intro id f hf
  cases t with
  | clear => cases hf
  | call q =>
    rw [Cache.turn, find?_resolve h.sorted] at hf
    split at hf
    · next hid =>
      -- the entry is what the call has returned, and so what the backend answers
      rw [h.fst_resolve (ht q rfl), ht q rfl] at hf
      rw [hid.1]
      exact hf
    · exact h.fields id f hf

/-- **What a resolver has is what the backend answers**, after any turns. -/
theorem Agrees.play (h : c.Agrees backend ciphertextOf) (ht : ∀ t ∈ ts, t.Matches ciphertextOf) :
    (c.play backend ts).Agrees backend ciphertextOf := by
  induction ts generalizing c with
  | nil => exact h
  | cons t ts ih =>
    have hfirst : (c.turn backend t).Agrees backend ciphertextOf := h.turn (ht t List.mem_cons_self)
    exact ih hfirst fun t' h' => ht t' (List.mem_cons_of_mem _ h')

/-- A resolver that keeps no source type finds nothing, ever. -/
theorem find?_play_of_uncacheable (hs : Keyed.Sorted c.entries) (hc : c.cacheable = [])
    (h : c.find? id = none) (ts : List Turn) : (c.play backend ts).find? id = none := by
  induction ts generalizing c with
  | nil => exact h
  | cons t ts ih =>
    -- no turn adds a source type, so no answer is kept
    refine ih (sorted_turn hs t) ((cacheable_turn backend c t).trans hc) ?_
    cases t with
    | clear => rfl
    | call q =>
      have hnot : c.isCacheable q.sourceType = false := by simp [isCacheable, hc]
      rw [turn, find?_resolve hs, hnot]
      simpa using h

/-- **What is in the cache stays there until it is cleared.** -/
theorem isSome_find?_play (hs : Keyed.Sorted c.entries) (hclear : .clear ∉ ts)
    (h : (c.find? id).isSome) : ((c.play backend ts).find? id).isSome := by
  induction ts generalizing c with
  | nil => exact h
  | cons t ts ih =>
    refine ih (sorted_turn hs t) (fun hmem => hclear (List.mem_cons_of_mem _ hmem)) ?_
    cases t with
    | clear => exact absurd List.mem_cons_self hclear
    | call q =>
      rw [turn, find?_resolve hs]
      split
      · next hid =>
        -- a call for the object itself returns what is there
        rw [fst_resolve, ← hid.1]
        obtain ⟨f, hf⟩ := Option.isSome_iff_exists.mp h
        rw [hf]
        rfl
      · exact h

/-- **The backend is not asked for what a call has left in the cache**, before that is cleared. -/
theorem answer?_eq_none_of_kept (hs : Keyed.Sorted c.entries)
    (hkept : c.isCacheable q.sourceType = true)
    (hstatic : (c.resolve backend q).1.hasStatic = true) (hclear : .clear ∉ ts) {q' : Query}
    (hid : q'.id = q.id) :
    (((c.turn backend (.call q)).play backend ts).serve backend q').1.answer? = none := by
  have hleft : ((c.turn backend (.call q)).find? q.id).isSome := by
    rw [turn, find?_resolve hs, if_pos ⟨rfl, hkept⟩]
    exact hstatic
  -- what is left is found by the later call
  obtain ⟨f, hf⟩ := Option.isSome_iff_exists.mp
    (isSome_find?_play (sorted_turn hs (.call q)) hclear hleft)
  rw [← hid] at hf
  rw [serve_of_hit hf]

theorem play_append (backend : List UInt8 → Answer) (c : Cache) (ts ts' : List Turn) :
    c.play backend (ts ++ ts') = (c.play backend ts).play backend ts' := by
  rw [play, play, play, List.foldl_append]

/-- Calls of one object with one ciphertext are calls by a table of ciphertexts. -/
theorem exists_ciphertextOf
    (h : ∀ q q', .call q ∈ ts → .call q' ∈ ts → q.id = q'.id → q.ciphertext = q'.ciphertext) :
    ∃ ciphertextOf, ∀ t ∈ ts, t.Matches ciphertextOf := by
  have hone : ∀ id, ∃ ciphertext, ∀ q, .call q ∈ ts → q.id = id → q.ciphertext = ciphertext := by
    intro id
    by_cases hsome : ∃ q, .call q ∈ ts ∧ q.id = id
    · obtain ⟨q, hq, hid⟩ := hsome
      exact ⟨q.ciphertext, fun q' hq' hid' => h q' q hq' hq (hid'.trans hid.symm)⟩
    · -- no call is about this object, so any ciphertext will do
      exact ⟨[], fun q hq hid => absurd ⟨q, hq, hid⟩ hsome⟩
  choose ciphertextOf hciphertext using hone
  refine ⟨ciphertextOf, ?_⟩
  rintro t ht q rfl
  exact hciphertext q.id q ht rfl

/-- **The cache cannot be noticed, and it saves the backend.**  Take a resolver with an empty cache
for any source types, a backend that answers by the ciphertext alone, and any calls and clearings in
a row, where the calls for an object carry one ciphertext.  Every call then returns what it returns
from a resolver that finds nothing in its cache, ever.  And once a call of a source type that is
kept has returned static fields, no call for that object asks the backend before the cache is
cleared. -/
theorem transparent_and_saving (types : List String) (backend : List UInt8 → Answer)
    (hsame : ∀ q q', .call q ∈ ts → .call q' ∈ ts → q.id = q'.id → q.ciphertext = q'.ciphertext) :
    (∀ before q after, ts = before ++ .call q :: after →
      let plain := (ofTypes []).play backend before
      (((ofTypes types).play backend before).resolve backend q).1 = (plain.resolve backend q).1 ∧
        ∀ id, plain.find? id = none) ∧
    ∀ before q between q' after, ts = before ++ .call q :: (between ++ .call q' :: after) →
      .clear ∉ between → q'.id = q.id → (ofTypes types).isCacheable q.sourceType = true →
      (((ofTypes types).play backend before).resolve backend q).1.hasStatic = true →
      (((ofTypes types).play backend (before ++ .call q :: between)).serve backend q').1.answer? =
        none := by
  constructor
  · rintro before q after rfl
    obtain ⟨ciphertextOf, hmatches⟩ := exists_ciphertextOf hsame
    have hq : q.ciphertext = ciphertextOf q.id := hmatches (.call q) (by simp) q rfl
    have hbefore : ∀ t ∈ before, t.Matches ciphertextOf := fun t ht => hmatches t (by simp [ht])
    -- both resolvers return what is in the answer of the backend
    have hpayload : ∀ types : List String,
        (((ofTypes types).play backend before).resolve backend q).1 =
          q.payload (backend q.ciphertext).fields? := by
      intro types
      have hempty : (ofTypes types).Agrees backend ciphertextOf := agrees_of_empty rfl
      exact (hempty.play hbefore).fst_resolve hq
    refine ⟨(hpayload types).trans (hpayload []).symm, ?_⟩
    intro id
    exact find?_play_of_uncacheable (sorted_ofTypes []) rfl rfl before
  · rintro before q between q' after rfl hclear hid hkept hstatic
    have hkept' : ((ofTypes types).play backend before).isCacheable q.sourceType = true := by
      rw [isCacheable, cacheable_play, ← isCacheable]
      exact hkept
    rw [play_append]
    exact answer?_eq_none_of_kept (sorted_play (sorted_ofTypes types) before) hkept' hstatic hclear
      hid

/-- A backend that reads one ciphertext. -/
def readsSecret : List UInt8 → Answer
  | [1] => .ok { payload := some "\x7b\"attrClassification\":\"secret\"\x7d" }
  | _ => .error (.workerGone 0)

/-- An object asked for twice, of which the second time in another source type and with telemetry,
and another one that cannot be read. -/
def askedTwice : List Turn :=
  [.clear, .call ⟨"o", "track", [1], none⟩, .call ⟨"p", "track", [2], none⟩,
    .call ⟨"o", "sensor", [1], some "\x7b\"speed\":4\x7d"⟩]

theorem transparent_and_saving_asked_twice :
    (∀ q q', .call q ∈ askedTwice → .call q' ∈ askedTwice → q.id = q'.id →
      q.ciphertext = q'.ciphertext) ∧
    (((ofTypes ["track"]).play readsSecret [.clear]).resolve readsSecret
      ⟨"o", "track", [1], none⟩).1.hasStatic = true ∧
    (((ofTypes ["track"]).play readsSecret (askedTwice.take 3)).serve readsSecret
      ⟨"o", "sensor", [1], some "\x7b\"speed\":4\x7d"⟩).1.answer? = none ∧
    (((ofTypes ["track"]).play readsSecret (askedTwice.take 2)).resolve readsSecret
      ⟨"p", "track", [2], none⟩).1 =
      (((ofTypes []).play readsSecret (askedTwice.take 2)).resolve readsSecret
        ⟨"p", "track", [2], none⟩).1 := by
  have htable : ∀ q, .call q ∈ askedTwice → q.ciphertext = if q.id = "o" then [1] else [2] := by
    intro q hq
    simp only [askedTwice, List.mem_cons, List.not_mem_nil, or_false, reduceCtorEq, false_or,
      Turn.call.injEq] at hq
    rcases hq with rfl | rfl | rfl <;> rfl
  have hsame : ∀ q q', .call q ∈ askedTwice → .call q' ∈ askedTwice → q.id = q'.id →
      q.ciphertext = q'.ciphertext := by
    intro q q' hq hq' hid
    rw [htable q hq, htable q' hq', hid]
  have hstatic : (((ofTypes ["track"]).play readsSecret [.clear]).resolve readsSecret
      ⟨"o", "track", [1], none⟩).1.hasStatic = true := by decide +kernel
  obtain ⟨htransparent, hsaving⟩ := transparent_and_saving ["track"] readsSecret hsame
  refine ⟨hsame, hstatic, ?_, ?_⟩
  · exact hsaving [.clear] _ [.call ⟨"p", "track", [2], none⟩] _ [] rfl (by simp) rfl (by decide)
      hstatic
  · exact (htransparent (askedTwice.take 2) _ (askedTwice.drop 3) rfl).1

end Clearance.Cache
