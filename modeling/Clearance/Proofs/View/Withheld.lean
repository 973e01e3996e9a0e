import Mathlib.Data.List.Forall2
import Clearance.Proofs.View.Pass
import Clearance.Proofs.View.Snapshot

/-!
# What is withheld

A viewer sees an object or the row that is left of it, and nothing else goes into a snapshot.  Of
an object that is withheld by policy the row has the name and the verdict, and the verdict has
nothing but names of attributes; so another object with the same name and attributes could stand in
its place unnoticed.  Only an object that could not be read stays on its row, and then there is
nothing on it to hide.

## Main definitions

* `Snapshot.seen`, `Snapshot.ofSeen`: what a viewer sees of an object, and of all of them
* `ResolvedObject.Unnoticed`: another object may stand in the place of one

## Main results

* `Snapshot.ofObjects_eq_ofSeen`: a snapshot rests on what is seen of its objects
* `Snapshot.seen_eq_of_unnoticed`: an object that goes unnoticed is seen in the same way
* `View.complete_eq_of_unnoticed`: refreshes of such objects cannot be told apart
-/

namespace Clearance

/-- The object could be read, but its markings withhold it. -/
def Verdict.isPolicy : Verdict → Bool
  | .missingAllOf _ | .noRelToOverlap _ => true
  | .allowed | .unreadable _ => false

theorem Verdict.isBlocked_of_isPolicy {v : Verdict} (h : v.isPolicy = true) :
    v.isBlocked = true := by
  cases v with
  | missingAllOf | noRelToOverlap => rfl
  | allowed | unreadable => cases h

variable {active : ActiveSet} {o o' : ResolvedObject} {objects objects' : List ResolvedObject}

/-- Another object may stand in the place of an object: it is the same one, or one with the same
name and attributes where the object is withheld by policy. -/
inductive ResolvedObject.Unnoticed (active : ActiveSet) (o : ResolvedObject) :
    ResolvedObject → Prop where
  | same : Unnoticed active o o
  | withheld {o' : ResolvedObject} (policy : (judge active o).isPolicy = true) (id : o'.id = o.id)
    (classification : o'.marking.classification = o.marking.classification)
    (needToKnow : o'.marking.needToKnow = o.marking.needToKnow)
    (relTo : o'.marking.relTo = o.marking.relTo) : Unnoticed active o o'

/-! ## Objects of a refresh -/

/-- The markings of the objects of a refresh are those in their payloads. -/
theorem Refresh.marking_of_mem {r : Refresh} (hr : r.objects? = some objects) (ho : o ∈ objects) :
    o.marking = ResolvedObject.markingOf o.id o.payload := by
  obtain ⟨payloads, -, rfl⟩ := Refresh.exists_payloads hr
  obtain ⟨i, hi, rfl⟩ := List.mem_iff_getElem.mp ho
  rw [List.getElem_zipWith]
  rfl

/-- An object that could not be read has no attributes. -/
theorem Refresh.marking_of_unreadable {r : Refresh} (hr : r.objects? = some objects)
    (ho : o ∈ objects) (hstatic : o.payload.staticFields = none) : o.marking = { id := o.id } := by
  rw [Refresh.marking_of_mem hr ho, ResolvedObject.markingOf, hstatic]

/-! ## Verdicts by policy -/

/-- An object that is withheld by policy could be read. -/
theorem judge_of_isPolicy (h : (judge active o).isPolicy = true) :
    judge active o = explain o.marking active := by
  unfold judge at h ⊢
  split
  · rfl
  · next hs =>
    rw [if_neg hs] at h
    cases h

/-- Of an object that is withheld by policy, the row has the name and the verdict. -/
theorem Blocked.ofObject_of_isPolicy (h : (judge active o).isPolicy = true) :
    ofObject active o = ⟨o.id, judge active o, none⟩ := by
  unfold ofObject
  cases hv : judge active o with
  | allowed | missingAllOf | noRelToOverlap => rfl
  | unreadable =>
    rw [hv] at h
    cases h

/-- An object with the attributes of one that is withheld by policy is withheld as well. -/
theorem judge_of_unnoticed (hpolicy : (judge active o).isPolicy = true)
    (hsame : explain o'.marking active = explain o.marking active)
    (hmarking : o'.payload.staticFields = none → o'.marking = { id := o'.id }) :
    judge active o' = judge active o := by
  have ho := judge_of_isPolicy hpolicy
  rw [ho, ← hsame, judge]
  refine if_pos ?_
  -- without static fields it would have no attributes, and would be allowed
  by_contra hs
  rw [ho, ← hsame, hmarking (by simpa [Payload.hasStatic] using hs), explain_unmarked] at hpolicy
  cases hpolicy

namespace Snapshot

/-- What a viewer sees of an object: the object, or the row that is left of it. -/
def seen (active : ActiveSet) (o : ResolvedObject) : ResolvedObject ⊕ Blocked :=
  if (judge active o).isBlocked then .inr (.ofObject active o) else .inl o

/-- The snapshot in which each object or row is what is seen of one object. -/
def ofSeen (epoch : Nat) (all : List (ResolvedObject ⊕ Blocked)) : Snapshot :=
  let visible := all.filterMap Sum.getLeft?
  { epoch := epoch
    visible := visible
    blocked := all.filterMap Sum.getRight?
    banner := .compute (visible.map (·.marking)) }

/-- **A snapshot rests on what is seen of its objects.** -/
theorem ofObjects_eq_ofSeen (epoch : Nat) (active : ActiveSet) (objects : List ResolvedObject) :
    ofObjects epoch active objects = ofSeen epoch (objects.map (seen active)) := by
  have hvisible : (objects.filter fun o => !(judge active o).isBlocked) =
      (objects.map (seen active)).filterMap Sum.getLeft? := by
    rw [← List.filterMap_eq_filter, List.filterMap_map]
    refine List.filterMap_congr fun o _ => ?_
    cases h : (judge active o).isBlocked <;> simp [seen, h]
  have hblocked : ((objects.filter fun o => (judge active o).isBlocked).map
      (Blocked.ofObject active)) = (objects.map (seen active)).filterMap Sum.getRight? := by
    rw [← List.filterMap_eq_filter, List.map_filterMap, List.filterMap_map]
    refine List.filterMap_congr fun o _ => ?_
    cases h : (judge active o).isBlocked <;> simp [seen, h]
  rw [ofObjects, hvisible, hblocked]
  rfl

/-- An object that goes unnoticed is seen as the one in whose place it stands. -/
theorem seen_eq_of_unnoticed (h : o.Unnoticed active o')
    (hmarking : o'.payload.staticFields = none → o'.marking = { id := o'.id }) :
    seen active o' = seen active o := by
  cases h with
  | same => rfl
  | withheld policy id classification needToKnow relTo =>
    have hjudge : judge active o' = judge active o :=
      judge_of_unnoticed policy (explain_congr classification needToKnow relTo) hmarking
    have hblocked := Verdict.isBlocked_of_isPolicy policy
    rw [seen, seen, hjudge, if_pos hblocked, if_pos hblocked, Blocked.ofObject_of_isPolicy policy,
      Blocked.ofObject_of_isPolicy (hjudge ▸ policy), hjudge, id]

theorem map_seen_eq_of_unnoticed (h : List.Forall₂ (·.Unnoticed active ·) objects objects')
    (hmarking : ∀ o ∈ objects', o.payload.staticFields = none → o.marking = { id := o.id }) :
    objects'.map (seen active) = objects.map (seen active) := by
  induction h with
  | nil => rfl
  | cons ho _ ih =>
    rw [List.forall_mem_cons] at hmarking
    rw [List.map_cons, List.map_cons, seen_eq_of_unnoticed ho hmarking.1, ih hmarking.2]

/-- The object on a row is one that could not be read. -/
theorem object_of_mem_blocked {epoch : Nat} {b : Blocked}
    (hb : b ∈ (ofObjects epoch active objects).blocked) (ho : b.object = some o) :
    o ∈ objects ∧ o.payload.staticFields = none ∧ b.verdict.isPolicy = false := by
  rw [blocked_ofObjects] at hb
  obtain ⟨u, hu, rfl⟩ := List.mem_map.mp hb
  unfold withheld at ho ⊢
  split at ho
  · cases ho
  · next hs =>
    obtain rfl := Option.some.inj ho
    rw [if_neg hs]
    exact ⟨(List.mem_filter.mp hu).1, by simpa [Payload.hasStatic] using hs, rfl⟩

end Snapshot

/-- **What is withheld leaves no trace.**  Let two refreshes, whatever their records were resolved
with, come to their end under the same active set and epoch, and let their objects be the same
position by position, except that an object which is withheld by policy may stand against any other
with the same name and attributes.  Then they return the same snapshot, so the same document, and
publish the same event.  On the rows of that snapshot an object stands only if it could not be
read, and then it has neither static fields nor attributes. -/
theorem View.complete_eq_of_unnoticed {v v' : View} {r r' : Refresh}
    (hr : r.objects? = some objects) (hr' : r'.objects? = some objects')
    (hepoch : v'.session.epoch = v.session.epoch) (hactive : v'.session.active = v.session.active)
    (h : List.Forall₂ (·.Unnoticed v.session.active ·) objects objects') :
    ∃ x x', v.complete r = some (x, [x.event]) ∧ v'.complete r' = some (x', [x'.event]) ∧
      x' = x ∧ x'.toJson = x.toJson ∧ x'.event = x.event ∧
      ∀ b ∈ x.blocked, ∀ o, b.object = some o →
        b.verdict.isPolicy = false ∧ o.payload.staticFields = none ∧
          o.marking = { id := o.id } := by
  have hsame : Snapshot.ofObjects v'.session.epoch v'.session.active objects' =
      Snapshot.ofObjects v.session.epoch v.session.active objects := by
    rw [hepoch, hactive, Snapshot.ofObjects_eq_ofSeen, Snapshot.ofObjects_eq_ofSeen,
      Snapshot.map_seen_eq_of_unnoticed h fun o ho => Refresh.marking_of_unreadable hr' ho]
  refine ⟨_, _, by rw [complete, hr]; rfl, by rw [complete, hr']; rfl, hsame,
    congrArg Snapshot.toJson hsame, congrArg Snapshot.event hsame, fun b hb o ho => ?_⟩
  obtain ⟨hmem, hstatic, hpolicy⟩ := Snapshot.object_of_mem_blocked hb ho
  exact ⟨hpolicy, hstatic, Refresh.marking_of_unreadable hr hmem hstatic⟩

/-- A refresh of an object that is shown, one that may be withheld, and one that could not be
read. -/
def refreshWith (record : RawRecord) (payload : Payload) : Refresh :=
  ⟨[⟨⟨"a", "track", [1], none, none, none⟩,
      some ⟨some (.ofList [("attrClassification", .string "secret")]), .empty⟩⟩,
    ⟨record, some payload⟩,
    ⟨⟨"c", "track", [3], none, none, none⟩, some ⟨none, .ofList [("speed", .ofNat 7)]⟩⟩]⟩

/-- An object that is withheld, with a name and a place. -/
def refreshNamed : Refresh :=
  refreshWith ⟨"b", "track", [2], none, some "POINT(0 0)", none⟩
    ⟨some (.ofList [("attrClassification", .string "topsecret"), ("name", .string "alpha")]),
      .empty⟩

/-- Another one of the same marking, of another source type and with a speed. -/
def refreshMoving : Refresh :=
  refreshWith ⟨"b", "sensor", [4], none, none, none⟩
    ⟨some (.ofList [("attrClassification", .string "topsecret")]), .ofList [("speed", .ofNat 3)]⟩

/-- A view in which someone may see what is secret. -/
def secretView : View := ((View.initial ["track"]).signIn (some [⟨"secret"⟩])).2.2

theorem View.complete_eq_of_named_moving :
    ∃ x, secretView.complete refreshNamed = some (x, [x.event]) ∧
      secretView.complete refreshMoving = some (x, [x.event]) ∧
      x.visible.map (·.id) = ["a"] ∧ x.blocked.map (·.id) = ["b", "c"] ∧
      ∀ b ∈ x.blocked, ∀ o, b.object = some o → o.payload.staticFields = none := by
  obtain ⟨x, x', hx, hx', rfl, -, -, hrows⟩ :=
    View.complete_eq_of_unnoticed (show refreshNamed.objects? = some _ from rfl)
      (show refreshMoving.objects? = some _ from rfl)
      (show secretView.session.epoch = secretView.session.epoch from rfl) rfl
      (.cons .same (.cons (.withheld (by decide +kernel) rfl rfl rfl rfl) (.cons .same .nil)))
  have hids : (secretView.complete refreshNamed).map (fun y =>
      (y.1.visible.map (·.id), y.1.blocked.map (·.id))) = some (["a"], ["b", "c"]) := by
    decide +kernel
  rw [hx] at hids
  obtain ⟨hvisible, hblocked⟩ := Prod.mk.inj (Option.some.inj hids)
  exact ⟨x', hx, hx', hvisible, hblocked, fun b hb o ho => (hrows b hb o ho).2.1⟩

end Clearance
