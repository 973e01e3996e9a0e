import Mathlib.Algebra.Ring.Nat
import Mathlib.Data.List.Induction
import Clearance.Proofs.Resolver.Calls
import Clearance.Proofs.Text.Trimmed

/-!
# The history of a cache

What a cache has and what it counts can be told from what was done with it.  It has the fields that
were last inserted for an object under a source type that is kept, unless it was cleared since.
Every look at it is counted as a hit or as a miss, and every insert that is kept as an insert;
clearing leaves these counts.  The counts have 64 bits, so they are exact for fewer than `2 ^ 64`
operations.

## Main definitions

* `EverSince`: something has happened, and something else holds of all that has happened since
* `Cache.Operation`, `Cache.Result`, `Cache.perform`, `Cache.performAll`: what may be done with a
  cache, and what comes of it
* `Cache.Move`: the ways in which an operation can turn out
* `Cache.Follows`: a cache is what its history tells

## Main results

* `Cache.Follows.find?_move`: what one operation leaves of an object
* `Cache.Follows.snoc`, `Cache.follows_performAll`: every operation keeps to the history, and so does
  every run
* `Cache.history_exact`: all of it
-/

namespace Clearance

/-! ## What has happened last -/

section EverSince

variable {α : Type} {p q p' q' : α → Prop} {xs : List α} {x : α}

/-- An element has one property, and all elements behind it have another one. -/
def EverSince (p q : α → Prop) (xs : List α) : Prop :=
  ∃ before x after, xs = before ++ x :: after ∧ p x ∧ ∀ y ∈ after, q y

theorem not_everSince_nil : ¬ EverSince p q [] := by
  rintro ⟨before, x, after, h, -⟩
  simp at h

/-- The last element is the one that counts, or it comes behind that. -/
theorem everSince_snoc : EverSince p q (xs ++ [x]) ↔ p x ∨ q x ∧ EverSince p q xs := by
  constructor
  · rintro ⟨before, y, after, h, hp, hq⟩
    rcases List.eq_nil_or_concat after with rfl | ⟨after, z, rfl⟩
    · obtain ⟨-, hx⟩ := List.append_inj' h rfl
      obtain rfl := List.singleton_inj.mp hx
      exact .inl hp
    · rw [List.concat_eq_append] at h hq
      rw [← List.cons_append, ← List.append_assoc] at h
      obtain ⟨hxs, hx⟩ := List.append_inj' h rfl
      obtain rfl := List.singleton_inj.mp hx
      exact .inr ⟨hq _ (by simp), before, y, after, hxs, hp, fun y hy => hq y (by simp [hy])⟩
  · rintro (hp | ⟨hq, before, y, after, rfl, hp, hafter⟩)
    · exact ⟨xs, x, [], rfl, hp, by simp⟩
    · refine ⟨before, y, after ++ [x], by simp, hp, ?_⟩
      intro z hz
      rcases List.mem_append.mp hz with hz | hz
      · exact hafter z hz
      · obtain rfl := List.mem_singleton.mp hz
        exact hq

end EverSince

namespace Cache

/-! ## Operations -/

/-- What may be done with a cache. -/
inductive Operation where
  | get (id : String)
  | insert (id sourceType : String) (fields : Fields)
  | isCacheable (sourceType : String)
  | clear

/-- What comes of an operation. -/
inductive Result where
  | found (fields : Option Fields)
  | stored (kept : Bool)
  | cacheable (kept : Bool)
  | cleared

namespace Operation

/-- The operation looks for an object. -/
def isGet : Operation → Bool
  | .get _ => true
  | _ => false

/-- The operation inserts fields of an object under a source type that is kept: one of the list,
and not blank. -/
def Puts (types : List String) (id : String) (f : Fields) (op : Operation) : Prop :=
  ∃ sourceType, op = .insert id sourceType f ∧ sourceType ∈ types ∧ Text.trim sourceType ≠ ""

/-- The operation neither clears the cache nor inserts anything for the object that is kept. -/
def Leaves (types : List String) (id : String) (op : Operation) : Prop :=
  op ≠ .clear ∧ ∀ f, ¬ op.Puts types id f

end Operation

namespace Result

/-- A look that has found something. -/
def isHit : Result → Bool
  | .found (some _) => true
  | _ => false

/-- A look that has found nothing. -/
def isMiss : Result → Bool
  | .found none => true
  | _ => false

/-- An insert that was kept. -/
def isStored : Result → Bool
  | .stored true => true
  | _ => false

end Result

/-- An operation: what comes of it, and what it leaves. -/
def perform (c : Cache) : Operation → Result × Cache
  | .get id => (.found (c.get id).1, (c.get id).2)
  | .insert id sourceType f => (.stored (c.insert id sourceType f).1, (c.insert id sourceType f).2)
  | .isCacheable sourceType => (.cacheable (c.isCacheable sourceType), c)
  | .clear => (.cleared, c.clear)

/-- Several operations in a row: what comes of each of them, and what they leave. -/
def performAll (c : Cache) : List Operation → List Result × Cache
  | [] => ([], c)
  | op :: rest =>
    let later := (c.perform op).2.performAll rest
    ((c.perform op).1 :: later.1, later.2)

variable {c : Cache} {op : Operation} {ops : List Operation} {results : List Result}
  {types : List String} {id : String} {f : Fields}

theorem performAll_snoc (c : Cache) (ops : List Operation) (op : Operation) :
    c.performAll (ops ++ [op]) =
      ((c.performAll ops).1 ++ [((c.performAll ops).2.perform op).1],
        ((c.performAll ops).2.perform op).2) := by
  induction ops generalizing c with
  | nil => rfl
  | cons first rest ih => rw [List.cons_append, performAll, ih]; rfl

theorem get_eq (c : Cache) (id : String) : (c.get id).1 = c.find? id := by
  unfold get
  cases c.find? id <;> rfl

/-! ## What one operation leaves -/

/-- The ways in which an operation can turn out. -/
inductive Move (c : Cache) : Operation → Result → Cache → Prop where
  /-- The cache has the object. -/
  | hit {id : String} {f : Fields} (found : c.find? id = some f) :
    Move c (.get id) (.found (some f)) { c with hits := c.hits + 1 }
  /-- The cache does not have it. -/
  | miss {id : String} (absent : c.find? id = none) :
    Move c (.get id) (.found none) { c with misses := c.misses + 1 }
  /-- The fields are kept. -/
  | keep {id sourceType : String} {f : Fields} (kept : c.isCacheable sourceType = true) :
    Move c (.insert id sourceType f) (.stored true)
      { c with entries := Keyed.insert id f c.entries, inserts := c.inserts + 1 }
  /-- They are not. -/
  | refuse {id sourceType : String} {f : Fields} (refused : c.isCacheable sourceType = false) :
    Move c (.insert id sourceType f) (.stored false) c
  /-- Asking for a source type changes nothing. -/
  | ask {sourceType : String} :
    Move c (.isCacheable sourceType) (.cacheable (c.isCacheable sourceType)) c
  /-- The entries are dropped, the counts stay. -/
  | clear : Move c .clear .cleared { c with entries := [] }

/-- **What an operation does is one of its moves.** -/
theorem move_perform (c : Cache) (op : Operation) : Move c op (c.perform op).1 (c.perform op).2 := by
  cases op with
  | get id =>
    simp only [perform, get]
    split
    · next hfound => exact .hit hfound
    · next habsent => exact .miss habsent
  | insert id sourceType f =>
    simp only [perform, insert]
    split
    · next hkept => exact .keep hkept
    · next hrefused => exact .refuse (Bool.eq_false_iff.mpr hrefused)
  | isCacheable sourceType => exact .ask
  | clear => exact .clear

/-- The source types that are kept are those of the list that are not blank. -/
theorem isCacheable_ofTypes (types : List String) (sourceType : String) :
    (ofTypes types).isCacheable sourceType = true ↔
      sourceType ∈ types ∧ Text.trim sourceType ≠ "" := by
  simp [isCacheable, ofTypes, ← Text.isBlankText_iff]

/-! ## What the history tells -/

/-- A cache for some source types is what its history tells, which is the operations and what has
come of them. -/
structure Follows (types : List String) (ops : List Operation) (results : List Result)
    (c : Cache) : Prop where
  cacheable : c.cacheable = (ofTypes types).cacheable
  sorted : Keyed.Sorted c.entries
  found : ∀ id f, c.find? id = some f ↔
    EverSince (fun op => op.Puts types id f) (fun op => op.Leaves types id) ops
  hits : c.hits = UInt64.ofNat (results.countP Result.isHit)
  misses : c.misses = UInt64.ofNat (results.countP Result.isMiss)
  inserts : c.inserts = UInt64.ofNat (results.countP Result.isStored)
  gets : results.countP Result.isHit + results.countP Result.isMiss = ops.countP Operation.isGet
  length : results.length = ops.length

theorem follows_ofTypes (types : List String) : Follows types [] [] (ofTypes types) where
  cacheable := rfl
  sorted := List.Pairwise.nil
  found _ _ := iff_of_false nofun not_everSince_nil
  hits := rfl
  misses := rfl
  inserts := rfl
  gets := rfl
  length := rfl

namespace Follows

variable {r : Result} {c' : Cache}

theorem isCacheable_iff (h : Follows types ops results c) (sourceType : String) :
    c.isCacheable sourceType = true ↔ sourceType ∈ types ∧ Text.trim sourceType ≠ "" := by
  rw [← isCacheable_ofTypes, isCacheable, h.cacheable, ← isCacheable]

/-- **What one operation leaves of an object**: the fields that it puts there, or what was there
before if it leaves that. -/
theorem find?_move (h : Follows types ops results c) (hm : Move c op r c') (id : String)
    (f : Fields) : c'.find? id = some f ↔
      op.Puts types id f ∨ op.Leaves types id ∧ c.find? id = some f := by
  cases hm with
  | hit | miss | ask => simp [Operation.Puts, Operation.Leaves, find?]
  | clear => simp [Operation.Puts, Operation.Leaves, find?, Keyed.find?]
  | @refuse id' sourceType f' refused =>
    have hnot : ∀ f, ¬ (Operation.insert id' sourceType f').Puts types id f := by
      rintro f ⟨_, heq, hkept⟩
      obtain ⟨-, rfl, -⟩ := Operation.insert.inj heq
      rw [← h.isCacheable_iff, refused] at hkept
      cases hkept
    simp [Operation.Leaves, hnot]
  | @keep id' sourceType f' kept =>
    have hputs : ∀ f, (Operation.insert id' sourceType f').Puts types id f ↔ id' = id ∧ f' = f := by
      intro f
      constructor
      · rintro ⟨_, heq, -⟩
        obtain ⟨hid, -, hf⟩ := Operation.insert.inj heq
        exact ⟨hid, hf⟩
      · rintro ⟨rfl, rfl⟩
        exact ⟨sourceType, rfl, (h.isCacheable_iff sourceType).mp kept⟩
    simp only [find?, Keyed.find?_insert _ _ _ h.sorted, hputs, Operation.Leaves]
    by_cases hid : id = id'
    · simp [hid]
    · simp [hid, Ne.symm hid]

/-- **Every operation keeps to the history.** -/
theorem snoc (h : Follows types ops results c) (hm : Move c op r c') :
    Follows types (ops ++ [op]) (results ++ [r]) c' where
  cacheable := by
    rw [← h.cacheable]
    cases hm <;> rfl
  sorted := by
    cases hm with
    | keep => exact Keyed.sorted_insert _ _ h.sorted
    | clear => exact List.Pairwise.nil
    | hit | miss | refuse | ask => exact h.sorted
  found id f := by rw [everSince_snoc, h.find?_move hm, h.found]
  hits := by
    rw [List.countP_append, UInt64.ofNat_add, ← h.hits]
    cases hm <;> simp [Result.isHit]
  misses := by
    rw [List.countP_append, UInt64.ofNat_add, ← h.misses]
    cases hm <;> simp [Result.isMiss]
  inserts := by
    rw [List.countP_append, UInt64.ofNat_add, ← h.inserts]
    cases hm <;> simp [Result.isStored]
  gets := by
    have hgets := h.gets
    simp only [List.countP_append]
    cases hm <;> simp [Result.isHit, Result.isMiss, Operation.isGet] <;> omega
  length := by simp [h.length]

end Follows

/-- **A cache is what its history tells**, after any operations in a row. -/
theorem follows_performAll (types : List String) (ops : List Operation) :
    Follows types ops ((ofTypes types).performAll ops).1 ((ofTypes types).performAll ops).2 := by
  induction ops using List.reverseRecOn with
  | nil => exact follows_ofTypes types
  | append_singleton ops op ih =>
    rw [performAll_snoc]
    exact ih.snoc (move_perform _ op)

/-! ## What a cache has, and what it counts -/

/-- Something is there of an object exactly when something was put there that was kept and not
cleared since; what it is, is what was put there last. -/
theorem exists_everSince_iff : (∃ f, EverSince (fun op => op.Puts types id f)
      (fun op => op.Leaves types id) ops) ↔
    EverSince (fun op => ∃ f, op.Puts types id f) (fun op => op ≠ .clear) ops := by
  induction ops using List.reverseRecOn with
  | nil => simp [not_everSince_nil]
  | append_singleton ops op ih =>
    simp only [everSince_snoc, exists_or, exists_and_left, ih]
    by_cases hp : ∃ f, op.Puts types id f
    · simp [hp]
    · -- an operation that puts nothing there leaves it, unless it clears the cache
      have hleaves : op.Leaves types id ↔ op ≠ .clear := and_iff_left (not_exists.mp hp)
      rw [hleaves]

namespace Follows

/-- **A cache has an entry for each object for which something was kept since it was cleared.** -/
theorem exists_ids (h : Follows types ops results c) :
    ∃ ids : List String, ids.Nodup ∧
      (∀ id, id ∈ ids ↔
        EverSince (fun op => ∃ f, op.Puts types id f) (fun op => op ≠ .clear) ops) ∧
      ids.length = c.size := by
  refine ⟨c.entries.map Prod.fst, h.sorted.nodup_keys, fun id => ?_, List.length_map _⟩
  rw [Keyed.mem_keys_iff, ← exists_everSince_iff]
  exact exists_congr fun f => h.found id f

/-- A count of 64 bits is exact as long as there are not more results. -/
theorem toNat_countP (h : Follows types ops results c) (hlen : ops.length < 2 ^ 64)
    (p : Result → Bool) : (UInt64.ofNat (results.countP p)).toNat = results.countP p := by
  apply UInt64.toNat_ofNat_of_lt
  have hle : results.countP p ≤ results.length := List.countP_le_length
  rw [h.length] at hle
  exact Nat.lt_of_le_of_lt hle hlen

end Follows

/-- **A cache is exactly what its history tells.**  Do any operations in a row with a new cache for
some source types, fewer than `2 ^ 64` of them.

* A look at an object finds what was put there last, unless the cache was cleared since; it finds
  nothing exactly when nothing was put there since then.
* An insert is kept exactly when its source type is one of the list and not blank.  One that is not
  kept changes nothing.
* Hits and misses are as many as looks, hits as many as looks that have found something, and inserts
  as many as inserts that were kept.
* There are as many entries as objects for which something was kept since the cache was cleared.
* Clearing leaves the counts. -/
theorem history_exact (types : List String) (ops : List Operation) (hlen : ops.length < 2 ^ 64) :
    let results := ((ofTypes types).performAll ops).1
    let c := ((ofTypes types).performAll ops).2
    (∀ id, (∀ f, (c.get id).1 = some f ↔
        EverSince (fun op => op.Puts types id f) (fun op => op.Leaves types id) ops) ∧
      ((c.get id).1 = none ↔
        ¬ EverSince (fun op => ∃ f, op.Puts types id f) (fun op => op ≠ .clear) ops)) ∧
    (∀ id sourceType f,
      ((c.insert id sourceType f).1 = true ↔ sourceType ∈ types ∧ Text.trim sourceType ≠ "") ∧
      ((c.insert id sourceType f).1 = false → (c.insert id sourceType f).2 = c)) ∧
    (c.stats.hits.toNat + c.stats.misses.toNat = ops.countP Operation.isGet ∧
      c.stats.hits.toNat = results.countP Result.isHit ∧
      c.stats.inserts.toNat = results.countP Result.isStored) ∧
    (c.stats.entries = c.size ∧ ∃ ids : List String, ids.Nodup ∧
      (∀ id, id ∈ ids ↔
        EverSince (fun op => ∃ f, op.Puts types id f) (fun op => op ≠ .clear) ops) ∧
      ids.length = c.size) ∧
    c.clear.stats = { c.stats with entries := 0 } := by
  intro results c
  have h : Follows types ops results c := follows_performAll types ops
  refine ⟨fun id => ⟨fun f => ?_, ?_⟩, fun id sourceType f => ⟨?_, ?_⟩, ⟨?_, ?_, ?_⟩,
    ⟨rfl, h.exists_ids⟩, rfl⟩
  · rw [get_eq, h.found]
  · rw [get_eq, Option.eq_none_iff_forall_ne_some, ← exists_everSince_iff, not_exists]
    exact forall_congr' fun f => not_congr (h.found id f)
  · rw [← h.isCacheable_iff, insert]
    cases c.isCacheable sourceType <;> simp
  · unfold insert
    split
    · intro hkept
      cases hkept
    · exact fun _ => rfl
  · show c.hits.toNat + c.misses.toNat = _
    rw [h.hits, h.misses, h.toNat_countP hlen, h.toNat_countP hlen, h.gets]
  · show c.hits.toNat = _
    rw [h.hits, h.toNat_countP hlen]
  · show c.inserts.toNat = _
    rw [h.inserts, h.toNat_countP hlen]

/-- The fields of an object with a name. -/
def named : Fields := Fields.empty.insert "name" (.string "o")

/-- An object that is inserted, dropped and inserted twice again, and after that under a source type
that is not kept; and one that is only ever inserted under a blank one. -/
def insertedAgain : List Operation :=
  [.insert "o" "track" named, .get "o", .clear, .get "o", .insert "o" "track" .empty,
    .insert "o" "track" named, .insert "o" "sensor" .empty, .insert "p" " " named,
    .isCacheable "sensor", .get "o"]

theorem history_exact_insertedAgain :
    insertedAgain.length < 2 ^ 64 ∧
      ∃ c, c = ((ofTypes ["track", " "]).performAll insertedAgain).2 ∧
        (c.get "o").1 = some named ∧ (c.get "p").1 = none ∧
        ¬ EverSince (fun op => ∃ f, op.Puts ["track", " "] "p" f) (fun op => op ≠ .clear)
          insertedAgain ∧
        c.stats.hits.toNat + c.stats.misses.toNat = 3 ∧ c.stats.inserts.toNat = 3 := by
  have hlen : insertedAgain.length < 2 ^ 64 := by decide
  obtain ⟨hget, -, ⟨hlooks, -, hinserts⟩, -⟩ := history_exact ["track", " "] _ hlen
  -- the sixth operation is the last that puts something there
  have hlast : EverSince (fun op => op.Puts ["track", " "] "o" named)
      (fun op => op.Leaves ["track", " "] "o") insertedAgain := by
    refine ⟨insertedAgain.take 5, _, insertedAgain.drop 6, rfl,
      ⟨"track", rfl, by decide, by decide⟩, ?_⟩
    simp [insertedAgain, Operation.Leaves, Operation.Puts]
  exact ⟨hlen, _, rfl, ((hget "o").1 named).mpr hlast, rfl, (hget "p").2.mp rfl, hlooks, hinserts⟩

end Cache
end Clearance
