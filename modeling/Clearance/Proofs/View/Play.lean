import Mathlib.Data.List.Nodup
import Clearance.Proofs.View.Pass

/-!
# Runs against a backend

Where a backend gives the answers, an event need not say what was answered: it is the answer to the
ciphertext of the record.  A whole refresh is such a run: all records ask the cache, those that wait
get their answers in order, and it ends.  It cannot get stuck, so that it has a snapshot.

## Main definitions

* `Viewing.Turn`: what may happen where a backend gives the answers
* `Viewing.play`: several turns in a row

## Main results

* `Viewing.play_looks`, `Viewing.play_answers`: the two halves of a whole refresh as runs
* `Viewing.play_refresh`: a whole refresh is a run, and has a snapshot
-/

namespace Clearance

namespace Viewing

/-- What may happen where a backend gives the answers. -/
inductive Turn where
  | change (c : Change)
  | begin (records : List RawRecord)
  | look (refresh : Nat)
  | answer (refresh record : Nat)
  | complete (refresh : Nat)

/-- The event that a turn is, in a state; none if there is no such record. -/
def Turn.event? (backend : List UInt8 → Answer) (s : Viewing) : Turn → Option Event
  | .change c => some (.change c)
  | .begin records => some (.begin records)
  | .look k => some (.look k)
  | .answer k i =>
    (s.passes[k]?.bind fun p => p.refresh.fetches[i]?).map fun f =>
      .receive k i (backend f.record.ciphertext)
  | .complete k => some (.complete k)

/-- What a turn changes; none where it cannot happen. -/
def turn (backend : List UInt8 → Answer) (s : Viewing) (t : Turn) : Option Viewing :=
  (t.event? backend s).bind s.step

/-- Several turns in a row; none where one of them cannot happen. -/
def play (backend : List UInt8 → Answer) (s : Viewing) : List Turn → Option Viewing
  | [] => some s
  | t :: rest => (s.turn backend t).bind fun s => s.play backend rest

theorem play_append (backend : List UInt8 → Answer) (s : Viewing) (ts ts' : List Turn) :
    s.play backend (ts ++ ts') = (s.play backend ts).bind fun s => s.play backend ts' := by
  induction ts generalizing s with
  | nil => rfl
  | cons t ts ih =>
    rw [List.cons_append, play, play, Option.bind_assoc]
    exact congrArg _ (funext ih)

end Viewing

/-! ## Records that wait -/

namespace Refresh

variable {r : Refresh} {i j : Nat} {ciphertext : List UInt8}

/-- Record `i` waits for the answer to a ciphertext. -/
def Waits (r : Refresh) (i : Nat) (ciphertext : List UInt8) : Prop :=
  ∃ record, r.fetches[i]? = some ⟨record, none⟩ ∧ record.ciphertext = ciphertext

theorem mem_wanted : (i, ciphertext) ∈ r.wanted ↔ r.Waits i ciphertext := by
  simp only [wanted, List.mem_filterMap, Prod.exists, List.mem_zipIdx_iff_getElem?, Waits]
  constructor
  · rintro ⟨⟨record, _ | payload⟩, j, hf, h⟩
    · obtain ⟨rfl, rfl⟩ : j = i ∧ record.ciphertext = ciphertext := by simpa using h
      exact ⟨record, hf, rfl⟩
    · simp at h
  · rintro ⟨record, hf, rfl⟩
    exact ⟨_, i, hf, rfl⟩

theorem nodup_wanted (r : Refresh) : (r.wanted.map Prod.fst).Nodup := by
  -- the numbers are those of the places, of which some are left out
  have hplaces : r.fetches.zipIdx.Pairwise fun x y => x.2 ≠ y.2 := by
    refine List.pairwise_map.mp ?_
    rw [List.zipIdx_map_snd]
    exact List.nodup_range'
  refine List.pairwise_map.mpr (hplaces.filterMap _ fun x y hne a ha b hb => ?_)
  obtain ⟨-, rfl⟩ := Option.ite_some_none_eq_some.mp ha
  obtain ⟨-, rfl⟩ := Option.ite_some_none_eq_some.mp hb
  exact hne

/-- A refresh of which no record waits has its objects. -/
theorem isSome_objects?_of_not_waits (h : ∀ i ciphertext, ¬ r.Waits i ciphertext) :
    r.objects?.isSome := by
  refine isSome_objects? fun f hf => ?_
  obtain ⟨i, hi⟩ := List.mem_iff_getElem?.mp hf
  obtain ⟨record, _ | payload⟩ := f
  · exact absurd ⟨record, hi, rfl⟩ (h i record.ciphertext)
  · rfl

/-- An answer is for one record; the others wait as before. -/
theorem waits_receive_iff (v : View) (a : Answer) {ciphertext' : List UInt8}
    (h : r.Waits i ciphertext') :
    (v.receive r i a).1.Waits j ciphertext ↔ j ≠ i ∧ r.Waits j ciphertext := by
  obtain ⟨record, hf, -⟩ := h
  have hi : i < r.fetches.length := (List.getElem?_eq_some_iff.mp hf).1
  rw [View.receive_eq v hf, Waits, Waits]
  by_cases hj : j = i
  · subst hj
    simp [List.getElem?_set_self hi]
  · simp [List.getElem?_set_ne (Ne.symm hj), hj]

end Refresh

/-! ## A whole refresh -/

namespace Viewing

variable (backend : List UInt8 → Answer)

/-- A view with one refresh under way. -/
def alone (v : View) (r : Refresh) (ahead : List RawRecord) : Viewing :=
  { view := v, passes := [⟨r, ahead⟩] }

/-- All records ask the cache, in order. -/
theorem play_looks (v : View) (r : Refresh) (records : List RawRecord) :
    (alone v r records).play backend (List.replicate records.length (.look 0)) =
      some (alone (records.foldl (fun (r, v) record => v.look r record) (r, v)).2
        (records.foldl (fun (r, v) record => v.look r record) (r, v)).1 []) := by
  induction records generalizing v r with
  | nil => rfl
  | cons record records ih => exact ih _ _

theorem turn_answer {v : View} {r : Refresh} {i : Nat} {ciphertext : List UInt8}
    (h : r.Waits i ciphertext) :
    (alone v r []).turn backend (.answer 0 i) =
      some (alone (v.receive r i (backend ciphertext)).2
        (v.receive r i (backend ciphertext)).1 []) := by
  obtain ⟨record, hf, rfl⟩ := h
  have hi : i < r.fetches.length := (List.getElem?_eq_some_iff.mp hf).1
  have hpass : (alone v r []).passes[0]? = some ⟨r, []⟩ := rfl
  simp only [turn, Turn.event?, step, hpass, Option.bind_some, hf, Option.map_some]
  exact if_pos ⟨rfl, hi⟩

/-- Records that wait get their answers, in any order; the others wait as before. -/
theorem play_answers (v : View) (r : Refresh) (ws : List (Nat × List UInt8))
    (hwaits : ∀ i ciphertext, (i, ciphertext) ∈ ws → r.Waits i ciphertext)
    (hnodup : (ws.map Prod.fst).Nodup) :
    let done := ws.foldl (fun (r, v) (i, ciphertext) => v.receive r i (backend ciphertext)) (r, v)
    (alone v r []).play backend ((ws.map Prod.fst).map (.answer 0)) =
        some (alone done.2 done.1 []) ∧
      ∀ i ciphertext, done.1.Waits i ciphertext →
        r.Waits i ciphertext ∧ (i, ciphertext) ∉ ws := by
  induction ws generalizing v r with
  | nil => exact ⟨rfl, fun i ciphertext h => ⟨h, List.not_mem_nil⟩⟩
  | cons w ws ih =>
    obtain ⟨j, ciphertext'⟩ := w
    rw [List.map_cons, List.nodup_cons] at hnodup
    -- the first answer leaves the others waiting, since it is for another record
    have hj : r.Waits j ciphertext' := hwaits j ciphertext' List.mem_cons_self
    have hrest : ∀ i ciphertext, (i, ciphertext) ∈ ws →
        (v.receive r j (backend ciphertext')).1.Waits i ciphertext := by
      intro i ciphertext hi
      refine (Refresh.waits_receive_iff v _ hj).mpr
        ⟨?_, hwaits i ciphertext (List.mem_cons_of_mem _ hi)⟩
      rintro rfl
      exact hnodup.1 (List.mem_map.mpr ⟨_, hi, rfl⟩)
    obtain ⟨hplay, hleft⟩ := ih _ _ hrest hnodup.2
    refine ⟨?_, fun i ciphertext h => ?_⟩
    · rw [List.map_cons, List.map_cons, play, turn_answer backend hj, Option.bind_some]
      exact hplay
    · obtain ⟨hi, hnot⟩ := hleft i ciphertext h
      obtain ⟨hne, hi⟩ := (Refresh.waits_receive_iff v _ hj).mp hi
      refine ⟨hi, fun hmem => ?_⟩
      rcases List.mem_cons.mp hmem with heq | hmem
      · exact hne (congrArg Prod.fst heq)
      · exact hnot hmem

theorem turn_complete (v : View) (r : Refresh) :
    (alone v r []).turn backend (.complete 0) = (v.complete r).map fun (x, events) =>
      { alone v r [] with published := events, snapshots := [(0, x)] } := by
  change (alone v r []).step (.complete 0) = _
  simp only [step, alone, List.any_nil, List.getElem?_cons_zero]
  cases v.complete r <;> rfl

/-- **A whole refresh is a run, and has a snapshot**: all records ask the cache, those that wait get
their answers in order, and it ends. -/
theorem play_refresh (v : View) (records : List RawRecord) :
    ∃ x answers s, play backend { view := v } (.begin records ::
        (List.replicate records.length (.look 0) ++
          (List.map (Turn.answer 0) answers ++ [.complete 0]))) = some s ∧
      v.refresh backend records = (some (x, [x.event]), s.view) ∧
      s.snapshots = [(0, x)] ∧ s.published = [x.event] := by
  let began := v.begin records
  let done := began.2.receiveAll backend began.1
  obtain ⟨hanswers, hleft⟩ := play_answers backend began.2 began.1 began.1.wanted
    (fun i ciphertext => Refresh.mem_wanted.mp) began.1.nodup_wanted
  -- whoever waited has got an answer
  have hdone : ∀ i ciphertext, ¬ done.1.Waits i ciphertext := by
    intro i ciphertext h
    obtain ⟨hwaits, hnot⟩ := hleft i ciphertext h
    exact hnot (Refresh.mem_wanted.mpr hwaits)
  obtain ⟨objects, hobjects⟩ :=
    Option.isSome_iff_exists.mp (Refresh.isSome_objects?_of_not_waits hdone)
  let x := Snapshot.ofObjects done.2.session.epoch done.2.session.active objects
  have hcomplete : done.2.complete done.1 = some (x, [x.event]) := by
    rw [View.complete, hobjects]
    rfl
  have hturn : (alone done.2 done.1 []).turn backend (.complete 0) =
      some { alone done.2 done.1 [] with published := [x.event], snapshots := [(0, x)] } := by
    rw [turn_complete, hcomplete]
    rfl
  refine ⟨x, began.1.wanted.map Prod.fst,
    { alone done.2 done.1 [] with published := [x.event], snapshots := [(0, x)] }, ?_,
    Prod.ext hcomplete rfl, rfl, rfl⟩
  calc play backend { view := v } (.begin records :: _)
      = (alone v ⟨[]⟩ records).play backend (List.replicate records.length (.look 0) ++
          (List.map (Turn.answer 0) (began.1.wanted.map Prod.fst) ++ [.complete 0])) := rfl
    _ = (alone began.2 began.1 []).play backend
          (List.map (Turn.answer 0) (began.1.wanted.map Prod.fst) ++ [.complete 0]) := by
        rw [play_append, play_looks]
        rfl
    _ = (alone done.2 done.1 []).play backend [.complete 0] := by
        rw [play_append, hanswers]
        rfl
    _ = some { alone done.2 done.1 [] with published := [x.event], snapshots := [(0, x)] } := by
        rw [play, hturn]
        rfl

end Viewing

end Clearance
