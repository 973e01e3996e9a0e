import Clearance.Proofs.Entitlement.Run

/-!
# Changes of the context

A change of the context that is accepted changes the session and clears the cache, both at once; one
that is refused leaves the whole view as it was.  A sign-in without entitlements ends the session,
so it counts as accepted here although its answer is a fault.

## Main definitions

* `Viewing.Change.accepted`: whether a change takes place

## Main results

* `View.apply_of_accepted`, `View.apply_of_refused`: what a change does to a view
* `View.session_apply`: what it does to the session, as in `Session.after`
-/

namespace Clearance

/-- Whether a change takes place, in a session. -/
def Viewing.Change.accepted (s : Session) : Viewing.Change → Bool
  | .signIn _ | .signOut => true
  | .narrow selection => (s.narrow selection).1.isOk
  | .narrowTo values => (s.narrowTo values).1.isOk
  | .reset => s.reset.1.isOk

namespace Session

variable {s : Session}

/-- An operation on the grant that is refused leaves the session as it was, if what it does with a
grant has this property. -/
theorem withGrant_refused {f : Grant → Answer × Session}
    (hf : ∀ g, (f g).1.isOk = false → (f g).2 = s) (h : (s.withGrant f).1.isOk = false) :
    (s.withGrant f).2 = s := by
  unfold withGrant at h ⊢
  cases hg : s.granted with
  | none => rfl
  | some g =>
    rw [hg] at h
    exact hf g h

/-- A change that is refused leaves the session as it was. -/
theorem after_of_refused {c : Viewing.Change} (h : c.accepted s = false) : s.after c = s := by
  cases c with
  | signIn | signOut => cases h
  | narrow selection => exact withGrant_refused (fun g hg => nomatch hg) h
  | reset => exact withGrant_refused (fun g hg => nomatch hg) h
  | narrowTo values =>
    refine withGrant_refused (fun g hg => ?_) h
    split at hg
    · cases hg
    · rfl

end Session

namespace View

variable {v : View}

theorem change_of_ok {result : Session.Answer × Session} (h : result.1.isOk = true)
    (reason : String) : (v.change reason result).2 = v.contextChanged result.2 reason := by
  obtain ⟨answer, session⟩ := result
  cases answer with
  | ok active => rfl
  | error fault => cases h

theorem change_of_error {result : Session.Answer × Session} (h : result.1.isOk = false)
    (reason : String) : (v.change reason result).2 = ([], v) := by
  obtain ⟨answer, session⟩ := result
  cases answer with
  | ok active => cases h
  | error fault => rfl

/-- **A change that takes place clears the cache.** -/
theorem apply_of_accepted {c : Viewing.Change} (h : c.accepted v.session = true) :
    (c.apply v).2 = ⟨v.session.after c, v.cache.clear⟩ := by
  cases c with
  | signIn values | signOut => rfl
  | narrow selection => exact congrArg Prod.snd (change_of_ok h _)
  | narrowTo values => exact congrArg Prod.snd (change_of_ok h _)
  | reset => exact congrArg Prod.snd (change_of_ok h _)

/-- **A change that is refused leaves the view as it was, and no one is told.** -/
theorem apply_of_refused {c : Viewing.Change} (h : c.accepted v.session = false) :
    c.apply v = ([], v) := by
  cases c with
  | signIn values | signOut => cases h
  | narrow selection => exact change_of_error h _
  | narrowTo values => exact change_of_error h _
  | reset => exact change_of_error h _

/-- What a change does to the session of a view. -/
theorem session_apply (v : View) (c : Viewing.Change) :
    (c.apply v).2.session = v.session.after c := by
  cases h : c.accepted v.session with
  | true => rw [apply_of_accepted h]
  | false => rw [apply_of_refused h, Session.after_of_refused h]

end View
end Clearance
