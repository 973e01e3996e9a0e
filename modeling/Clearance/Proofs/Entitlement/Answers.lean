import Clearance.Proofs.Entitlement.Epoch
import Clearance.Proofs.View.Context

/-!
# Answers to changes

A reset or a narrowing is refused where no one is signed in, and a narrowing to values where one of
them was not granted; the fault then lists all of those.  What is refused changes nothing.  Every
other change is counted, a sign-in without entitlements among them, which ends the session.  What is
in use within a session goes back to the last choice that was accepted: it is made from the grant,
and no earlier choice leaves a trace.

## Main definitions

* `Session.answer?`, `Session.Refuses`: what a change is answered, and when it is refused
* `Session.Accounted`: the effect of a change on a session and its epoch
* `Session.chosen`, `Session.lastTaken`: the choice that a change makes, and the last one of a run

## Main results

* `Session.refuses_iff`: the refusals, each with its cause
* `Session.accounted_of_lt`: below the last epoch every change is accounted for
* `Session.run_eq_of_same_epoch`: one epoch, one session, at any two moments of a run
* `Session.active_run`: what is in use after several choices is the last one
* `Session.epochs_exact`: all of this for the runs that the epoch can count
-/

namespace Clearance.Session

variable {s : Session} {g : Grant} {c : Viewing.Change} {changes : List Viewing.Change}
  {fault : EntitlementFault}

/-! ## Refusals -/

/-- The answer to a change.  Signing out has none. -/
def answer? (s : Session) : Viewing.Change → Option Answer
  | .signIn values => some (s.signIn values).1
  | .signOut => none
  | .narrow selection => some (s.narrow selection).1
  | .narrowTo values => some (s.narrowTo values).1
  | .reset => some s.reset.1

/-- A reset or a narrowing is answered with a fault. -/
def Refuses (s : Session) (c : Viewing.Change) (fault : EntitlementFault) : Prop :=
  c.keepsGrant = true ∧ s.answer? c = some (.error fault)

theorem answer?_of_none (hg : s.granted = none) (hc : c.keepsGrant = true) :
    s.answer? c = some (.error .notSignedIn) := by
  -- all three ask for the grant before anything else
  have hrefused : ∀ f, some (s.withGrant f).1 = some (.error .notSignedIn) := by
    intro f
    rw [withGrant_none hg]
  cases c with
  | signIn | signOut => cases hc
  | narrow | narrowTo | reset => exact hrefused _

theorem refuses_iff_of_none (hg : s.granted = none) :
    s.Refuses c fault ↔ c.keepsGrant = true ∧ fault = .notSignedIn := by
  refine and_congr_right fun hc => ?_
  rw [answer?_of_none hg hc, Option.some.injEq, Except.error.injEq]
  exact eq_comm

theorem refuses_iff_of_some (hg : s.granted = some g) :
    s.Refuses c fault ↔ ∃ values, c = .narrowTo values ∧ (∃ v ∈ values, v ∉ g.values) ∧
      fault = .notGranted ((values.filter fun v => v ∉ g.values).map (·.text)) := by
  cases c with
  | signIn | signOut => simp [Refuses, Viewing.Change.keepsGrant]
  | narrow selection => simp [Refuses, answer?, narrow_granted hg]
  | reset => simp [Refuses, answer?, reset_granted hg]
  | narrowTo values =>
    -- one value that was not granted refuses them all
    by_cases hv : ∀ v ∈ values, v ∈ g.values
    · have hnone : ¬ ∃ v ∈ values, v ∉ g.values := by simpa using hv
      simp [Refuses, answer?, narrowTo_granted hg hv, hnone]
    · obtain ⟨v, hmem, hnot⟩ : ∃ v ∈ values, v ∉ g.values := by
        simpa only [not_forall, exists_prop] using hv
      have hsome : ∃ v ∈ values, v ∉ g.values := ⟨v, hmem, hnot⟩
      simp [Refuses, Viewing.Change.keepsGrant, answer?, narrowTo_not_granted hg hmem hnot, hsome,
        Grant.contains, eq_comm]

/-- **The refusals**: of any choice where nothing is granted, and of values that were not granted,
with all of these in the order in which they were asked for. -/
theorem refuses_iff :
    s.Refuses c fault ↔
      s.granted = none ∧ c.keepsGrant = true ∧ fault = .notSignedIn ∨
      ∃ g values, s.granted = some g ∧ c = .narrowTo values ∧ (∃ v ∈ values, v ∉ g.values) ∧
        fault = .notGranted ((values.filter fun v => v ∉ g.values).map (·.text)) := by
  cases hg : s.granted with
  | none => simp [refuses_iff_of_none hg]
  | some g => simp [refuses_iff_of_some hg]

theorem isOk_eq_false_iff {ε α : Type} {x : Except ε α} : x.isOk = false ↔ ∃ e, x = .error e := by
  cases x <;> simp [Except.isOk, Except.toBool]

/-- A change takes place unless it is refused. -/
theorem accepted_eq_false_iff : c.accepted s = false ↔ ∃ fault, s.Refuses c fault := by
  cases c with
  | signIn values | signOut => simp [Viewing.Change.accepted, Refuses, Viewing.Change.keepsGrant]
  | narrow | narrowTo | reset =>
    simp [Viewing.Change.accepted, Refuses, Viewing.Change.keepsGrant, answer?, isOk_eq_false_iff]

/-! ## What is counted -/

theorem withGrant_accepted {f : Grant → Answer × Session} {epoch : Nat}
    (hf : ∀ g, (f g).1.isOk = true → (f g).2.epoch = epoch) (h : (s.withGrant f).1.isOk = true) :
    (s.withGrant f).2.epoch = epoch := by
  cases hg : s.granted with
  | none =>
    rw [withGrant_none hg] at h
    cases h
  | some g =>
    rw [withGrant_some hg] at h ⊢
    exact hf g h

/-- A change that takes place leads to the next epoch. -/
theorem epoch_after_of_accepted (h : c.accepted s = true) :
    (s.after c).epoch = nextEpoch s.epoch := by
  cases c with
  | signIn values => cases values <;> rfl
  | signOut => rfl
  | narrow selection => exact withGrant_accepted (fun g _ => rfl) h
  | reset => exact withGrant_accepted (fun g _ => rfl) h
  | narrowTo values =>
    refine withGrant_accepted (fun g hok => ?_) h
    split at hok
    · rfl
    · cases hok

/-- A change is accounted for: a refusal gives its cause and changes nothing, every other change is
counted, and a sign-in without entitlements says so and ends the session. -/
structure Accounted (s : Session) (c : Viewing.Change) : Prop where
  refused : ∀ fault, s.Refuses c fault → s.after c = s ∧
    (s.granted = none ∧ fault = .notSignedIn ∨
      ∃ g values, s.granted = some g ∧ c = .narrowTo values ∧
        fault = .notGranted ((values.filter fun v => v ∉ g.values).map (·.text)))
  counted : (∀ fault, ¬ s.Refuses c fault) → (s.after c).epoch = s.epoch + 1
  missing : c = .signIn none → s.answer? c = some (.error .missing) ∧
    (s.after c).granted = none ∧ (s.after c).active = .none

/-- **Below the last epoch every change is accounted for.** -/
theorem accounted_of_lt (h : s.epoch < lastEpoch) (c : Viewing.Change) : s.Accounted c where
  refused fault hr := by
    refine ⟨after_of_refused (accepted_eq_false_iff.mpr ⟨fault, hr⟩), ?_⟩
    rcases refuses_iff.mp hr with ⟨hg, -, rfl⟩ | ⟨g, values, hg, rfl, -, rfl⟩
    · exact .inl ⟨hg, rfl⟩
    · exact .inr ⟨g, values, hg, rfl, rfl⟩
  counted hr := by
    -- what is not refused takes place
    have haccepted : c.accepted s = true := by
      by_contra hnot
      obtain ⟨fault, hfault⟩ := accepted_eq_false_iff.mp (Bool.eq_false_iff.mpr hnot)
      exact hr fault hfault
    rw [epoch_after_of_accepted haccepted, nextEpoch_of_lt h]
  missing := by
    rintro rfl
    exact ⟨rfl, rfl, rfl⟩

/-- **One epoch, one session**, at any two moments of a run. -/
theorem run_eq_of_same_epoch {before before' : List Viewing.Change}
    (hlen : changes.length ≤ lastEpoch) (hb : before <+: changes) (hb' : before' <+: changes)
    (h : (initial.run before).epoch = (initial.run before').epoch) :
    initial.run before = initial.run before' := by
  wlog hle : before <+: before' generalizing before before'
  · have hle' := (List.prefix_or_prefix_of_prefix hb hb').resolve_left hle
    exact (this hb' hb h.symm hle').symm
  -- the later moment goes on from the earlier one
  obtain ⟨later, rfl⟩ := hle
  exact (run_eq_of_epoch_eq (Nat.le_trans hb'.length_le hlen) h.symm).symm

/-! ## The last choice -/

/-- What a change chooses from a grant. -/
def chosen (g : Grant) : Viewing.Change → ActiveSet
  | .narrow selection => .ofValues (g.values.filter selection.keeps)
  | .narrowTo values => .ofValues values
  -- a sign-in chooses nothing yet, and without a session there is nothing to choose from
  | .reset | .signIn _ | .signOut => .full g

/-- The last change of a run that took place. -/
def lastTaken (s : Session) : List Viewing.Change → Option Viewing.Change
  | [] => none
  | c :: rest => ((s.after c).lastTaken rest).or (if c.accepted s then some c else none)

/-- A choice that is accepted comes into use, and one that is refused leaves what was there. -/
theorem active_after (hg : s.granted = some g) (hc : c.keepsGrant = true) :
    (s.after c).active = if c.accepted s then chosen g c else s.active := by
  cases haccepted : c.accepted s with
  | false => simp [after_of_refused haccepted]
  | true =>
    cases c with
    | signIn | signOut => cases hc
    | narrow selection => simp [after, narrow_granted hg, chosen]
    | reset => simp [after, reset_granted hg, chosen]
    | narrowTo values =>
      have hv : ∀ v ∈ values, v ∈ g.values := by
        intro v hmem
        by_contra hnot
        rw [Viewing.Change.accepted, narrowTo_not_granted hg hmem hnot] at haccepted
        cases haccepted
      simp [after, narrowTo_granted hg hv, chosen]

/-- **The last choice is what is in use.**  By induction on the choices: the grant stays, and each
of them either replaces what is in use or leaves it. -/
theorem active_run (hg : s.granted = some g) (hc : ∀ c ∈ changes, c.keepsGrant = true) :
    (s.run changes).active = ((s.lastTaken changes).map (chosen g)).getD s.active := by
  induction changes generalizing s with
  | nil => rfl
  | cons c rest ih =>
    have hkeeps : c.keepsGrant = true := hc c List.mem_cons_self
    have hg' : (s.after c).granted = some g := (granted_after hkeeps).trans hg
    have hrest := ih hg' fun c' h => hc c' (List.mem_cons_of_mem _ h)
    have hcons : s.run (c :: rest) = (s.after c).run rest := rfl
    rw [hcons, hrest, active_after hg hkeeps, lastTaken]
    -- a later choice wins; without one it is this choice, or what was there before
    cases (s.after c).lastTaken rest with
    | some later => rfl
    | none => cases c.accepted s <;> rfl

/-- **Epochs and refusals are exact.**  Take a run of no more changes than there are epochs.  Every
change of the run is accounted for: a refused reset or narrowing leaves grant, active set and epoch
as they were, with the cause as its fault, and every other change is counted.  At any two moments
of the run that have the same epoch the active set is the same.  And however a session came about,
what is in use in it depends on the entitlements of its sign-in and on the last choice that was
accepted: it is that choice, or the whole grant if there was none. -/
theorem epochs_exact (hlen : changes.length ≤ lastEpoch) :
    (∀ before c, before ++ [c] <+: changes → (initial.run before).Accounted c) ∧
    (∀ before before', before <+: changes → before' <+: changes →
      (initial.run before).epoch = (initial.run before').epoch →
      (initial.run before).active = (initial.run before').active) ∧
    ∀ (s : Session) (list : List Attribute) (within : List Viewing.Change),
      (∀ c ∈ within, c.keepsGrant = true) →
      let signedIn := s.after (.signIn (some list))
      (signedIn.run within).active =
        ((signedIn.lastTaken within).map (chosen (.ofList list))).getD (.full (.ofList list)) := by
  refine ⟨fun before c hmoment => ?_, fun before before' hb hb' h => ?_, fun s list within hc => ?_⟩
  · -- the changes so far have not used up the epochs
    have hcount := initial.epoch_run_le before
    have hmore := hmoment.length_le
    rw [List.length_append, List.length_singleton] at hmore
    have hzero : initial.epoch = 0 := rfl
    exact accounted_of_lt (by omega) c
  · rw [run_eq_of_same_epoch hlen hb hb' h]
  · exact active_run (g := .ofList list) rfl hc

/-- A run with a refusal of either kind and a sign-in without entitlements. -/
def refusedTwice : List Viewing.Change :=
  [.reset, .signIn (some [⟨"a"⟩, ⟨"b"⟩]), .narrowTo [⟨"c"⟩, ⟨"a"⟩, ⟨"c"⟩], .narrowTo [⟨"a"⟩],
    .signIn none, .signOut]

theorem epochs_exact_refused_twice :
    let s := fun n => initial.run (refusedTwice.take n)
    refusedTwice.length ≤ lastEpoch ∧
      ((s 2).Refuses (.narrowTo [⟨"c"⟩, ⟨"a"⟩, ⟨"c"⟩]) (.notGranted ["c", "c"]) ∧
        (s 2).after (.narrowTo [⟨"c"⟩, ⟨"a"⟩, ⟨"c"⟩]) = s 2) ∧
      (s 3).active = (s 2).active ∧ (s 5).epoch = (s 4).epoch + 1 ∧
      ((s 2).run [.narrowTo [⟨"a"⟩], .narrowTo [⟨"b"⟩], .narrowTo [⟨"c"⟩]]).active =
        .ofValues [⟨"b"⟩] := by
  intro s
  have hlen : refusedTwice.length ≤ lastEpoch := by decide
  obtain ⟨haccounted, hsame, hlast⟩ := epochs_exact hlen
  have hmoment : ∀ n, refusedTwice.take n <+: refusedTwice := fun n => List.take_prefix n _
  have hrefused : (s 2).Refuses (.narrowTo [⟨"c"⟩, ⟨"a"⟩, ⟨"c"⟩]) (.notGranted ["c", "c"]) :=
    ⟨rfl, rfl⟩
  have hsignIn : ∀ fault, ¬ (s 4).Refuses (.signIn none) fault := by
    rintro fault ⟨hkeeps, -⟩
    cases hkeeps
  refine ⟨hlen, ⟨hrefused, ?_⟩, ?_, ?_, ?_⟩
  · have hthird := haccounted (refusedTwice.take 2) (.narrowTo [⟨"c"⟩, ⟨"a"⟩, ⟨"c"⟩])
      (hmoment 3)
    exact (hthird.refused _ hrefused).1
  · exact hsame _ _ (hmoment 3) (hmoment 2) (by decide)
  · have hfifth := haccounted (refusedTwice.take 4) (.signIn none) (hmoment 5)
    exact hfifth.counted hsignIn
  · exact hlast (s 1) _ [.narrowTo [⟨"a"⟩], .narrowTo [⟨"b"⟩], .narrowTo [⟨"c"⟩]] (by decide)

end Clearance.Session
