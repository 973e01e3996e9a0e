import Clearance.Proofs.Entitlement.Run
import Clearance.Proofs.Marking.Level
import Clearance.Proofs.Release.Decision

/-!
# The ceiling of a narrowing

Narrowing looks at the level of a granted value only where the value is a classification.  Values
of the other categories stay by their names, and values without a known category stay always.  An
object is judged by simple names, whatever their category.  So a value that is no classification
but names a level above the ceiling lets the objects of that level through, and nothing else does.

## Main definitions

* `Selection.keepsUnchecked`: the value stays, and its level is not looked at

## Main results

* `Selection.keeps_iff_of_level?`: which values that name a level stay
* `Session.level_le_ceiling_or`: the objects that are shown after a narrowing
-/

namespace Clearance

namespace Selection

/-- The value stays in use whatever level it names: it has no known category, or a listed name in
one of the categories without levels. -/
def keepsUnchecked (s : Selection) (v : Attribute) : Bool :=
  match v.category? with
  | some .classification => false
  | some .needToKnow => lists s.needToKnow v.simpleName
  | some .relTo => lists s.relTo v.simpleName
  | none => true

/-- A value that names a level stays as a classification up to the ceiling, or unchecked. -/
theorem keeps_iff_of_level? {s : Selection} {v : Attribute} {l : Level} (h : v.level? = some l) :
    s.keeps v = true ↔
      v.category? = some .classification ∧ l ≤ s.classification ∨ s.keepsUnchecked v = true := by
  have hne := Attribute.simpleName_ne_of_level? h
  have hl : Level.ofName? v.simpleName = some l := h
  unfold keeps keepsUnchecked
  rw [if_neg hne]
  cases hc : v.category? with
  | none => simp
  | some c => cases c <;> simp [hl]

end Selection

/-- The names that are held of the values chosen from a grant. -/
theorem ActiveSet.holds_ofValues_filter {list : List Attribute} {p : Attribute → Bool}
    {n : String} :
    (ofValues ((Grant.ofList list).values.filter p)).holds n = true ↔
      n ≠ "" ∧ ∃ v ∈ list, p v = true ∧ v.simpleName = n := by
  rw [holds_iff]
  simp [Grant.ofList, and_assoc]

namespace Session

/-- **Nothing but unchecked values passes the ceiling.**  Narrowing a session with a grant
succeeds.  An object that is then shown is not above the ceiling, unless the grant has a value that
names the level of the object and stays unchecked; and every such value does let an object of its
level through. -/
theorem level_le_ceiling_or {s : Session} {list : List Attribute} (selection : Selection)
    (hs : s.granted = some (.ofList list)) :
    ∃ active s', s.narrow selection = (.ok active, s') ∧ s'.active = active ∧
      (∀ m, explain m active = .allowed →
        m.level ≤ selection.classification ∨
          ∃ v ∈ list, v.level? = some m.level ∧ selection.keepsUnchecked v = true) ∧
      ∀ v ∈ list, ∀ l, v.level? = some l → selection.keepsUnchecked v = true →
        ∃ m, explain m active = .allowed ∧ m.level = l := by
  refine ⟨_, _, narrow_granted hs selection, rfl, fun m hm => ?_, fun v hv l hl hk => ?_⟩
  · rcases m.level_eq_or_exists with hlow | ⟨v, hv, hl⟩
    · exact .inl (hlow ▸ Level.unclassified_le _)
    · -- the classification with the level of the object is held, by a value that stays
      have hall := Marking.allHeld_iff.mp (explain_eq_allowed_iff.mp hm).1
      have hheld := hall v (List.mem_append_left _ hv) (Attribute.simpleName_ne_of_level? hl)
      obtain ⟨-, w, hw, hk, hn⟩ := ActiveSet.holds_ofValues_filter.mp hheld
      have hwl : w.level? = some m.level := (Attribute.level?_congr hn).trans hl
      rcases (Selection.keeps_iff_of_level? hwl).mp hk with ⟨-, hle⟩ | hu
      · exact .inl hle
      · exact .inr ⟨w, hw, hwl, hu⟩
  · have hne := Attribute.simpleName_ne_of_level? hl
    have hkept := (Selection.keeps_iff_of_level? hl).mpr (.inr hk)
    -- the object whose only classification is the value itself
    refine ⟨{ id := "", classification := [v] }, ?_, Marking.level_singleton "" hl⟩
    refine explain_eq_allowed_iff.mpr ⟨Marking.allHeld_iff.mpr ?_, .inl rfl⟩
    simp only [List.append_nil, List.mem_singleton, forall_eq]
    exact fun _ => ActiveSet.holds_ofValues_filter.mpr ⟨hne, v, hv, hkept, rfl⟩

/-- A grant of two classifications and a need to know, narrowed to the lower classification: no
object above it is shown. -/
theorem level_le_secret_of_narrow :
    let list : List Attribute :=
      [⟨"https://demo.com/attr/classification/value/secret"⟩,
        ⟨"https://demo.com/attr/classification/value/topsecret"⟩,
        ⟨"https://demo.com/attr/needtoknow/value/int"⟩]
    let selection : Selection := { classification := .secret, needToKnow := ["int"] }
    let s := (initial.signIn (some list)).2
    s.granted = some (.ofList list) ∧
      ∃ active s', s.narrow selection = (.ok active, s') ∧
        ∀ m, explain m active = .allowed → m.level ≤ .secret := by
  intro list selection s
  have hs : s.granted = some (.ofList list) := rfl
  have unchecked : ∀ v ∈ list, selection.keepsUnchecked v = true → v.level? = none := by decide
  obtain ⟨active, s', hn, -, hle, -⟩ := level_le_ceiling_or selection hs
  refine ⟨hs, active, s', hn, fun m hm => ?_⟩
  rcases hle m hm with h | ⟨v, hv, hl, hk⟩
  · exact h
  · rw [unchecked v hv hk] at hl
    cases hl

/-- A granted value that is no fully qualified name passes the lowest ceiling. -/
theorem not_forall_level_le_ceiling :
    ¬ ∀ (list : List Attribute) (selection : Selection) (m : Marking) (active : ActiveSet)
      (s' : Session), (initial.signIn (some list)).2.narrow selection = (.ok active, s') →
        explain m active = .allowed → m.level ≤ selection.classification := by
  intro h
  have hle := h [⟨"topsecret"⟩] { classification := .unclassified }
    { id := "o", classification := [⟨"topsecret"⟩] } _ _ rfl (by decide)
  revert hle
  decide

end Session
end Clearance
