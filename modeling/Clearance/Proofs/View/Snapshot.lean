import Clearance.Proofs.Release.Decision
import Clearance.View.Snapshot

/-!
# What a snapshot shows

A snapshot parts its objects into those that are shown and those that are withheld, and keeps the
order of either.  An object that could not be read is withheld whatever the viewer holds.

## Main definitions

* `Snapshot.shows`: whether an object is shown
* `Snapshot.withheld`: what is left of an object that is not

## Main results

* `Snapshot.visible_ofObjects`, `Snapshot.blocked_ofObjects`: the two parts of a snapshot
* `Snapshot.ids_perm`: every object is in one of them, once
-/

namespace Clearance

namespace Snapshot

/-- An object is shown: it could be read, and its markings allow it. -/
def shows (active : ActiveSet) (o : ResolvedObject) : Bool :=
  o.payload.hasStatic && explain o.marking active = .allowed

/-- An object that is not shown, with the reason; it stays whole only if it could not be read. -/
def withheld (active : ActiveSet) (o : ResolvedObject) : Blocked :=
  if o.payload.hasStatic then ⟨o.id, explain o.marking active, none⟩
  else ⟨o.id, .unreadable "static payload unavailable", some o⟩

variable {active : ActiveSet} {objects : List ResolvedObject}

theorem isBlocked_judge (active : ActiveSet) (o : ResolvedObject) :
    (judge active o).isBlocked = !shows active o := by
  unfold judge shows
  cases o.payload.hasStatic with
  | false => rfl
  | true => cases explain o.marking active <;> simp [Verdict.isBlocked]

theorem ofObject_eq_withheld (active : ActiveSet) (o : ResolvedObject) :
    Blocked.ofObject active o = withheld active o := by
  unfold Blocked.ofObject withheld judge
  cases o.payload.hasStatic with
  | false => rfl
  | true =>
    -- the evaluator itself finds nothing unreadable
    cases h : explain o.marking active with
    | unreadable reason => exact absurd h (explain_ne_unreadable _ _ reason)
    | allowed | missingAllOf | noRelToOverlap => simp

theorem visible_ofObjects (epoch : Nat) :
    (ofObjects epoch active objects).visible = objects.filter (shows active) := by
  simp only [ofObjects, isBlocked_judge, Bool.not_not]

theorem blocked_ofObjects (epoch : Nat) :
    (ofObjects epoch active objects).blocked =
      (objects.filter fun o => !shows active o).map (withheld active) := by
  simp only [ofObjects, isBlocked_judge]
  exact List.map_congr_left fun o _ => ofObject_eq_withheld active o

/-- Every object is shown or withheld, once. -/
theorem ids_perm (epoch : Nat) :
    ((ofObjects epoch active objects).visible.map (·.id) ++
      (ofObjects epoch active objects).blocked.map (·.id)).Perm (objects.map (·.id)) := by
  have hid : (·.id) ∘ withheld active = (·.id) := by
    funext o
    simp only [Function.comp_apply, withheld]
    split <;> rfl
  rw [visible_ofObjects, blocked_ofObjects, List.map_map, hid, ← List.map_append]
  exact (List.filter_append_perm _ _).map _

end Snapshot

end Clearance
