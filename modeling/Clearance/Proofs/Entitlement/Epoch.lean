import Clearance.Proofs.Entitlement.Run

/-!
# Epochs

The epoch counts the changes that took place.  It stays where it is only when it has reached the
last epoch, so that up to there an epoch tells which session it is: two moments of one run with the
same epoch have the same session.

## Main results

* `Session.epoch_after`: a change leaves the session as it was, or leads to the next epoch
* `Session.epoch_run_le`, `Session.epoch_le_run`: how far a run of changes can count
* `Session.run_eq_of_epoch_eq`: one epoch, one session
-/

namespace Clearance.Session

variable {s : Session} {changes later : List Viewing.Change}

theorem run_append (s : Session) (changes later : List Viewing.Change) :
    s.run (changes ++ later) = (s.run changes).run later := by
  rw [run, run, run, List.foldl_append]

/-- **A change leaves the session as it was, or leads to the next epoch.** -/
theorem epoch_after (s : Session) (c : Viewing.Change) :
    s.after c = s ∨ (s.after c).epoch = nextEpoch s.epoch := by
  rcases s.after_cases c with h | ⟨h, -⟩ | ⟨g, values, h, -, -⟩
  · exact .inl h
  · exact .inr (by rw [h, signOut])
  · exact .inr (by rw [h])

theorem nextEpoch_of_lt {epoch : Nat} (h : epoch < lastEpoch) : nextEpoch epoch = epoch + 1 := by
  rw [nextEpoch]
  omega

/-- A run counts one for each change at most. -/
theorem epoch_run_le (s : Session) (changes : List Viewing.Change) :
    (s.run changes).epoch ≤ s.epoch + changes.length := by
  induction changes using List.reverseRecOn with
  | nil => exact Nat.le_refl _
  | append_singleton changes c ih =>
    rw [run_snoc, List.length_append, List.length_singleton]
    rcases (s.run changes).epoch_after c with h | h
    · rw [h]
      omega
    · rw [h, nextEpoch]
      omega

/-- An epoch does not go back, and where it has not moved nothing has changed. -/
theorem epoch_le_run (h : s.epoch + changes.length ≤ lastEpoch) :
    s.epoch ≤ (s.run changes).epoch ∧ ((s.run changes).epoch = s.epoch → s.run changes = s) := by
  induction changes using List.reverseRecOn with
  | nil => exact ⟨Nat.le_refl _, fun _ => rfl⟩
  | append_singleton changes c ih =>
    rw [List.length_append, List.length_singleton] at h
    obtain ⟨hle, heq⟩ := ih (by omega)
    have hcount := s.epoch_run_le changes
    rw [run_snoc]
    rcases (s.run changes).epoch_after c with hafter | hafter
    · rw [hafter]
      exact ⟨hle, heq⟩
    · -- below the last epoch the next one is a new one
      rw [nextEpoch_of_lt (by omega)] at hafter
      exact ⟨by omega, fun hsame => by omega⟩

/-- **One epoch, one session.**  Two moments of a run that has not reached the last epoch, one of
them before the other, have the same session if they have the same epoch. -/
theorem run_eq_of_epoch_eq (hlen : (changes ++ later).length ≤ lastEpoch)
    (h : (initial.run (changes ++ later)).epoch = (initial.run changes).epoch) :
    initial.run (changes ++ later) = initial.run changes := by
  have hcount : (initial.run changes).epoch ≤ changes.length := by
    simpa [initial] using initial.epoch_run_le changes
  rw [List.length_append] at hlen
  rw [run_append] at h ⊢
  exact (epoch_le_run (by omega)).2 h

end Clearance.Session
