import Clearance.Proofs.View.Play

/-!
# Telemetry

Beside its ciphertext a record carries telemetry in plain text: dynamic fields, a place and a time.
Telemetry is shown, and in the merged fields of an object it even comes first, but nothing is
decided by it.  This is a statement on two runs: take the telemetry out of all records, and every
step leads to the same state, with the telemetry taken out.

## Main definitions

* `RawRecord.stripped`, ..., `Viewing.stripped`: records, objects and states without telemetry
* `Snapshot.Decision`: what a snapshot decides

## Main results

* `Snapshot.ofObjects_stripped`: judging takes no notice of telemetry
* `Viewing.step_stripped`, `Viewing.play_stripped`: nor does a step, nor a run
* `Viewing.decisions_eq_of_stripped_eq`: runs that differ in telemetry alone decide the same
-/

namespace Clearance

/-! ## Without telemetry -/

/-- A record without its telemetry. -/
def RawRecord.stripped (r : RawRecord) : RawRecord :=
  { r with dynamicFields := none, geo := none, timestamp := none }

/-- A payload without its dynamic fields. -/
def Payload.stripped (p : Payload) : Payload := { p with dynamicFields := .empty }

/-- A record of a refresh without its telemetry. -/
def Fetch.stripped (f : Fetch) : Fetch := ⟨f.record.stripped, f.payload.map Payload.stripped⟩

/-- A refresh whose records have no telemetry. -/
def Refresh.stripped (r : Refresh) : Refresh := ⟨r.fetches.map Fetch.stripped⟩

/-- An object without its telemetry. -/
def ResolvedObject.stripped (o : ResolvedObject) : ResolvedObject :=
  { o with geo := none, timestamp := none, payload := o.payload.stripped }

/-- An object that is not shown, without its telemetry. -/
def Blocked.stripped (b : Blocked) : Blocked :=
  { b with object := b.object.map ResolvedObject.stripped }

/-- A snapshot whose objects have no telemetry. -/
def Snapshot.stripped (x : Snapshot) : Snapshot :=
  { x with
    visible := x.visible.map ResolvedObject.stripped
    blocked := x.blocked.map Blocked.stripped }

namespace Viewing

/-- A refresh and the records ahead of it, all without telemetry. -/
def Pass.stripped (p : Pass) : Pass := ⟨p.refresh.stripped, p.ahead.map RawRecord.stripped⟩

/-- A view whose refreshes and snapshots have no telemetry.  The view itself and the events that
were published are left as they are. -/
def stripped (s : Viewing) : Viewing :=
  { s with
    passes := s.passes.map Pass.stripped
    snapshots := s.snapshots.map fun (k, x) => (k, x.stripped) }

/-- An event whose records have no telemetry. -/
def Event.stripped : Event → Event
  | .begin records => .begin (records.map RawRecord.stripped)
  | e => e

/-- A turn whose records have no telemetry. -/
def Turn.stripped : Turn → Turn
  | .begin records => .begin (records.map RawRecord.stripped)
  | t => t

end Viewing

/-! ## Judging takes no notice of telemetry -/

@[simp]
theorem ResolvedObject.ofRecord_stripped (r : RawRecord) (p : Payload) :
    ofRecord r.stripped p.stripped = (ofRecord r p).stripped := rfl

@[simp]
theorem judge_stripped (active : ActiveSet) (o : ResolvedObject) :
    judge active o.stripped = judge active o := rfl

@[simp]
theorem Blocked.ofObject_stripped (active : ActiveSet) (o : ResolvedObject) :
    ofObject active o.stripped = (ofObject active o).stripped := by
  simp only [ofObject, stripped, judge_stripped]
  cases judge active o <;> rfl

namespace Snapshot

theorem ofObjects_stripped (epoch : Nat) (active : ActiveSet) (objects : List ResolvedObject) :
    ofObjects epoch active (objects.map ResolvedObject.stripped) =
      (ofObjects epoch active objects).stripped := by
  have hmarking : (fun o : ResolvedObject => o.stripped.marking) = (·.marking) := rfl
  simp [ofObjects, stripped, List.filter_map, Function.comp_def, hmarking]

@[simp]
theorem event_stripped (x : Snapshot) : x.stripped.event = x.event := by
  simp [event, stripped]

end Snapshot

/-! ## Nor does a refresh -/

theorem Refresh.objects?_stripped (r : Refresh) :
    r.stripped.objects? = r.objects?.map (List.map ResolvedObject.stripped) := by
  obtain ⟨fetches⟩ := r
  simp only [objects?, stripped]
  induction fetches with
  | nil => rfl
  | cons f fetches ih =>
    have hobject : f.stripped.payload.map (ResolvedObject.ofRecord f.stripped.record) =
        (f.payload.map (ResolvedObject.ofRecord f.record)).map ResolvedObject.stripped := by
      simp [Fetch.stripped, Function.comp_def]
    rw [List.map_cons, List.mapM_cons, List.mapM_cons, ih, hobject]
    -- either side is there exactly when the first object and all the others are
    cases f.payload.map (ResolvedObject.ofRecord f.record) with
    | none => rfl
    | some o => cases fetches.mapM fun f => f.payload.map (ResolvedObject.ofRecord f.record) <;> rfl

/-- Whether a record can receive an answer. -/
theorem Refresh.receivable_stripped (r : Refresh) (i : Nat) :
    ((r.stripped.fetches[i]?.bind fun f => f.payload).isNone ∧ i < r.stripped.fetches.length) ↔
      (r.fetches[i]?.bind fun f => f.payload).isNone ∧ i < r.fetches.length := by
  simp only [stripped, List.getElem?_map, List.length_map]
  rcases r.fetches[i]? with _ | ⟨record, _ | payload⟩ <;> rfl

namespace View

variable (v : View) (r : Refresh)

theorem look_stripped (record : RawRecord) :
    v.look r.stripped record.stripped = ((v.look r record).1.stripped, (v.look r record).2) := by
  simp only [look_eq, Refresh.stripped, List.map_append, List.map_cons, List.map_nil,
    Fetch.stripped, Option.map_map]
  rfl

theorem receive_stripped (i : Nat) (a : Answer) :
    v.receive r.stripped i a = ((v.receive r i a).1.stripped, (v.receive r i a).2) := by
  have hfetch : r.stripped.fetches[i]? = r.fetches[i]?.map Fetch.stripped := List.getElem?_map ..
  rw [receive, receive, hfetch]
  rcases r.fetches[i]? with _ | ⟨record, _ | payload⟩
  · rfl
  · -- the record waits; what the cache keeps of the answer has nothing dynamic
    simp only [Option.map_some, Fetch.stripped, Option.map_none, Refresh.stripped, List.map_set,
      Cache.receive]
    cases a.fields? <;> rfl
  · rfl

theorem complete_stripped :
    v.complete r.stripped = (v.complete r).map fun (x, events) => (x.stripped, events) := by
  simp only [complete, Refresh.objects?_stripped, Option.map_map]
  congr 1
  funext objects
  simp [Snapshot.ofObjects_stripped]

end View

/-! ## Nor does a run -/

namespace Viewing

theorem getElem?_passes_stripped (s : Viewing) (k : Nat) :
    s.stripped.passes[k]? = s.passes[k]?.map Pass.stripped := List.getElem?_map ..

/-- **A step takes no notice of telemetry.** -/
theorem step_stripped (s : Viewing) (e : Event) :
    s.stripped.step e.stripped = (s.step e).map stripped := by
  -- a step goes by the refresh it is about, and how far that has come can be seen without telemetry
  cases e with
  | change c => rfl
  | begin records => simp [step, Event.stripped, stripped, Pass.stripped, Refresh.stripped]
  | look k =>
    simp only [step, Event.stripped, getElem?_passes_stripped]
    rcases s.passes[k]? with _ | ⟨r, _ | ⟨record, ahead⟩⟩
    · rfl
    · rfl
    · simp [Pass.stripped, View.look_stripped, stripped]
  | receive k i a =>
    simp only [step, Event.stripped, getElem?_passes_stripped]
    rcases s.passes[k]? with _ | ⟨r, ahead⟩
    · rfl
    · simp only [Option.map_some, Pass.stripped, Refresh.receivable_stripped, View.receive_stripped]
      split
      · simp [stripped, Pass.stripped]
      · rfl
  | complete k =>
    have hended : (s.stripped.snapshots.any fun x => x.1 = k) =
        s.snapshots.any fun x => x.1 = k := by
      simp [stripped, Function.comp_def]
    simp only [step, Event.stripped, hended, getElem?_passes_stripped]
    split
    · rfl
    · rcases s.passes[k]? with _ | ⟨r, _ | ⟨record, ahead⟩⟩
      · rfl
      · simp only [Option.map_some, Pass.stripped, List.map_nil, View.complete_stripped]
        rw [show s.stripped.view = s.view from rfl]
        cases s.view.complete r <;> simp [stripped]
      · rfl

theorem Turn.event?_stripped (backend : List UInt8 → Answer) (s : Viewing) (t : Turn) :
    t.stripped.event? backend s.stripped = (t.event? backend s).map Event.stripped := by
  cases t with
  | change | begin | look | complete => rfl
  | answer k i =>
    simp only [Turn.stripped, event?, getElem?_passes_stripped, Option.map_map, Option.bind_map]
    rcases s.passes[k]? with _ | ⟨⟨fetches⟩, ahead⟩
    · rfl
    · -- the answer is that to the ciphertext, which is not telemetry
      simp [Pass.stripped, Refresh.stripped, Function.comp_def, Fetch.stripped, RawRecord.stripped,
        Event.stripped]

theorem turn_stripped (backend : List UInt8 → Answer) (s : Viewing) (t : Turn) :
    s.stripped.turn backend t.stripped = (s.turn backend t).map stripped := by
  rw [turn, turn, Turn.event?_stripped]
  cases t.event? backend s with
  | none => rfl
  | some e => exact step_stripped s e

/-- **A run takes no notice of telemetry**, by induction on its turns. -/
theorem play_stripped (backend : List UInt8 → Answer) (s : Viewing) (ts : List Turn) :
    s.stripped.play backend (ts.map Turn.stripped) = (s.play backend ts).map stripped := by
  induction ts generalizing s with
  | nil => rfl
  | cons t ts ih =>
    rw [List.map_cons, play, play, turn_stripped]
    cases s.turn backend t with
    | none => rfl
    | some s' => exact ih s'

end Viewing

/-! ## What is decided -/

/-- What a snapshot decides: which objects are shown, with their static fields and markings, which
are withheld, with the verdicts, and the banner. -/
structure Snapshot.Decision where
  epoch : Nat
  visible : List (String × Option Fields × Marking)
  blocked : List (String × Verdict)
  banner : Banner

/-- The decision in a snapshot. -/
def Snapshot.decision (x : Snapshot) : Decision where
  epoch := x.epoch
  visible := x.visible.map fun o => (o.id, o.payload.staticFields, o.marking)
  blocked := x.blocked.map fun b => (b.id, b.verdict)
  banner := x.banner

theorem Snapshot.decision_stripped (x : Snapshot) : x.stripped.decision = x.decision := by
  simp only [decision, stripped, List.map_map]
  rfl

namespace Viewing

/-- The decisions in the snapshots that were returned, each with the number of its refresh. -/
def decisions (s : Viewing) : List (Nat × Snapshot.Decision) :=
  s.snapshots.map fun (k, x) => (k, x.decision)

theorem decisions_stripped (s : Viewing) : s.stripped.decisions = s.decisions := by
  simp [decisions, stripped, Function.comp_def, Snapshot.decision_stripped]

/-- **Nothing is decided by telemetry.**  Take any view, whatever its session and its cache, and
any backend that answers by the ciphertext alone.  Let two runs go through the same turns, that is,
the same changes of the context, lookups, answers and ends of refreshes in the same order, and let
the records of their refreshes differ in telemetry alone.  Then both are possible or neither is; the
session and the cache come to the same, the same events are published, the banners of the refreshes
among them, and the snapshots decide the same. -/
theorem decisions_eq_of_stripped_eq (v : View) (backend : List UInt8 → Answer)
    {ts ts' : List Turn} (h : ts'.map Turn.stripped = ts.map Turn.stripped) :
    (play backend { view := v } ts').isSome = (play backend { view := v } ts).isSome ∧
      ∀ s s', play backend { view := v } ts = some s → play backend { view := v } ts' = some s' →
        s'.view = s.view ∧ s'.published = s.published ∧ s'.decisions = s.decisions := by
  -- both runs are, without telemetry, the run of the turns without telemetry
  have hsame : (play backend { view := v } ts').map stripped =
      (play backend { view := v } ts).map stripped := by
    rw [← play_stripped, ← play_stripped, h]
  refine ⟨by simpa using congrArg Option.isSome hsame, fun s s' hs hs' => ?_⟩
  rw [hs, hs'] at hsame
  have hstripped : s'.stripped = s.stripped := Option.some.inj hsame
  refine ⟨(congrArg Viewing.view hstripped :), (congrArg Viewing.published hstripped :), ?_⟩
  rw [← decisions_stripped s', ← decisions_stripped s, hstripped]

/-- A backend that can read one ciphertext. -/
def readsOne : List UInt8 → Answer
  | [1] => .ok { payload := some "\x7b\"attrClassification\":\"secret\"\x7d" }
  | _ => .ok { error := some "broken" }

/-- Someone signs in and asks for two records, of which one is read; the answers come in the other
order. -/
def askedForTwo (dynamicFields geo : Option String) : List Turn :=
  [.change (.signIn (some [⟨"secret"⟩])),
    .begin
      [⟨"a", "track", [1], dynamicFields, geo, none⟩, ⟨"b", "track", [2], dynamicFields, geo, none⟩],
    .look 0, .look 0, .answer 0 1, .answer 0 0, .complete 0]

/-- Telemetry that would relabel the object. -/
def relabelled : List Turn :=
  askedForTwo (some "\x7b\"attrClassification\":\"topsecret\"\x7d") (some "POINT(0 0)")

theorem decisions_eq_of_relabelled :
    ∃ s s', play readsOne { view := .initial ["track"] } (askedForTwo none none) = some s ∧
      play readsOne { view := .initial ["track"] } relabelled = some s' ∧
      s'.view = s.view ∧ s'.published = s.published ∧ s'.decisions = s.decisions ∧
      (s'.decisions.map fun x => (x.2.visible.map (·.1), x.2.blocked.map (·.1))) =
        [(["a"], ["b"])] ∧
      (s'.snapshots.map fun x => x.2.visible.map (·.geo)) = [[some "POINT(0 0)"]] := by
  have hplain : (play readsOne { view := .initial ["track"] } (askedForTwo none none)).isSome := by
    decide +kernel
  have hseen : (play readsOne { view := .initial ["track"] } relabelled).map (fun s =>
      (s.decisions.map fun x => (x.2.visible.map (·.1), x.2.blocked.map (·.1)),
        s.snapshots.map fun x => x.2.visible.map (·.geo))) =
      some ([(["a"], ["b"])], [[some "POINT(0 0)"]]) := by decide +kernel
  obtain ⟨s, hs⟩ := Option.isSome_iff_exists.mp hplain
  obtain ⟨s', hs', hshown⟩ := Option.map_eq_some_iff.mp hseen
  obtain ⟨hview, hpublished, hdecisions⟩ :=
    (decisions_eq_of_stripped_eq (.initial ["track"]) readsOne
      (show relabelled.map Turn.stripped = (askedForTwo none none).map Turn.stripped from rfl)).2
      s s' hs hs'
  obtain ⟨hids, hgeo⟩ := Prod.mk.inj hshown
  exact ⟨s, s', hs, hs', hview, hpublished, hdecisions, hids, hgeo⟩

end Viewing
end Clearance
