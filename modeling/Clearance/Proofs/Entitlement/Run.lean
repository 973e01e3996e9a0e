import Mathlib.Data.List.Induction
import Clearance.View.Basic

/-!
# Runs of a session

A session changes by signing in and out, by narrowing and by going back to the whole grant.  What
is in use after any run of changes, refused ones among them, is a part of what is granted at that
moment.  The invariant ties the parts of a session together: the active values are granted ones,
the active names are theirs, and only a session without a grant has no access at all.

## Main definitions

* `Session.after`, `Session.run`: the session after a change, and after several
* `Session.Sound`: the invariant
* `Viewing.Change.keepsGrant`: the changes that choose anew from the same grant

## Main results

* `Session.after_cases`: what a change can do
* `Session.Sound.after`, `Session.Sound.run`: every change keeps the invariant, and so does a run
* `Session.active_within_grant`: what is in use after any run
-/

namespace Clearance

/-- The change chooses from the grant that is there already. -/
def Viewing.Change.keepsGrant : Viewing.Change → Bool
  | .narrow _ | .narrowTo _ | .reset => true
  | .signIn _ | .signOut => false

/-! ## Active sets made of values -/

namespace ActiveSet

@[simp] theorem mem_values_ofValues {values : List Attribute} {v : Attribute} :
    v ∈ (ofValues values).values ↔ v ∈ values := by
  simp [ofValues]

@[simp] theorem noAccess_ofValues (values : List Attribute) : (ofValues values).noAccess = false :=
  rfl

/-- What the whole grant of some values holds. -/
theorem holds_full_ofList {values : List Attribute} {n : String} :
    (full (.ofList values)).holds n = true ↔ n ≠ "" ∧ ∃ v ∈ values, v.simpleName = n := by
  rw [full, holds_iff]
  simp only [mem_values_ofValues, Grant.ofList, Distinct.mem_ofList]

end ActiveSet

theorem Grant.contains_iff {g : Grant} {v : Attribute} : g.contains v = true ↔ v ∈ g.values := by
  simp [Grant.contains]

namespace Session

/-! ## One change -/

/-- The session after a change, which may have been refused. -/
def after (s : Session) : Viewing.Change → Session
  | .signIn values => (s.signIn values).2
  | .signOut => s.signOut
  | .narrow selection => (s.narrow selection).2
  | .narrowTo values => (s.narrowTo values).2
  | .reset => s.reset.2

variable {s : Session} {g : Grant}

theorem withGrant_none (h : s.granted = none) (f : Grant → Answer × Session) :
    s.withGrant f = (.error .notSignedIn, s) := by
  simp only [withGrant, h]

theorem withGrant_some (h : s.granted = some g) (f : Grant → Answer × Session) :
    s.withGrant f = f g := by
  simp only [withGrant, h]

theorem use_granted (h : s.granted = some g) (active : ActiveSet) :
    s.use active = (.ok active, ⟨some g, active, nextEpoch s.epoch⟩) := by
  simp only [use, h]

/-- Resetting with a grant. -/
theorem reset_granted (h : s.granted = some g) :
    s.reset = (.ok (.full g), ⟨some g, .full g, nextEpoch s.epoch⟩) := by
  rw [reset, withGrant_some h, use_granted h]

/-- Narrowing with a grant. -/
theorem narrow_granted (h : s.granted = some g) (selection : Selection) :
    s.narrow selection =
      (.ok (.ofValues (g.values.filter selection.keeps)),
        ⟨some g, .ofValues (g.values.filter selection.keeps), nextEpoch s.epoch⟩) := by
  rw [narrow, withGrant_some h, use_granted h]

/-- Narrowing to granted values. -/
theorem narrowTo_granted (h : s.granted = some g) {values : List Attribute}
    (hv : ∀ v ∈ values, v ∈ g.values) :
    s.narrowTo values = (.ok (.ofValues values), ⟨some g, .ofValues values, nextEpoch s.epoch⟩) := by
  have hm : values.filter (fun a => !g.contains a) = [] := by
    refine List.filter_eq_nil_iff.mpr fun v hv' => ?_
    simp [Grant.contains_iff.mpr (hv v hv')]
  rw [narrowTo, withGrant_some h, hm]
  exact use_granted h _

/-- Narrowing to values of which one was not granted. -/
theorem narrowTo_not_granted (h : s.granted = some g) {values : List Attribute} {v : Attribute}
    (hv : v ∈ values) (hg : v ∉ g.values) :
    s.narrowTo values =
      (.error (.notGranted ((values.filter fun a => !g.contains a).map (·.text))), s) := by
  have hm : v ∈ values.filter fun a => !g.contains a := by
    refine List.mem_filter.mpr ⟨hv, ?_⟩
    simpa [Grant.contains] using hg
  rw [narrowTo, withGrant_some h]
  split
  · next he =>
    rw [he] at hm
    cases hm
  · rfl

/-- **What a change can do**: nothing, or end the session, or put granted values into use.  In the
last case the grant is the one that was there, unless a principal signs in. -/
theorem after_cases (s : Session) (c : Viewing.Change) :
    s.after c = s ∨
      s.after c = s.signOut ∧ c.keepsGrant = false ∨
        ∃ g values, s.after c = ⟨some g, .ofValues values, nextEpoch s.epoch⟩ ∧
          (∀ v ∈ values, v ∈ g.values) ∧ (c.keepsGrant = true → s.granted = some g) := by
  cases c with
  | signIn values =>
    cases values with
    | none => exact .inr (.inl ⟨rfl, rfl⟩) -- without entitlements the session ends
    | some values =>
      refine .inr (.inr ⟨Grant.ofList values, _, rfl, fun v hv => hv, fun h => ?_⟩)
      cases h
  | signOut => exact .inr (.inl ⟨rfl, rfl⟩)
  | narrow selection =>
    cases hg : s.granted with
    | none => exact .inl (congrArg Prod.snd (withGrant_none hg _))
    | some g =>
      refine .inr (.inr ⟨g, _, congrArg Prod.snd (narrow_granted hg selection), ?_, fun _ => rfl⟩)
      exact fun v hv => (List.mem_filter.mp hv).1
  | narrowTo values =>
    cases hg : s.granted with
    | none => exact .inl (congrArg Prod.snd (withGrant_none hg _))
    | some g =>
      -- one value that was not granted refuses them all
      by_cases hv : ∀ v ∈ values, v ∈ g.values
      · exact .inr (.inr ⟨g, _, congrArg Prod.snd (narrowTo_granted hg hv), hv, fun _ => rfl⟩)
      · obtain ⟨v, hv, hn⟩ : ∃ v ∈ values, v ∉ g.values := by
          simpa only [not_forall, exists_prop] using hv
        exact .inl (congrArg Prod.snd (narrowTo_not_granted hg hv hn))
  | reset =>
    cases hg : s.granted with
    | none => exact .inl (congrArg Prod.snd (withGrant_none hg _))
    | some g =>
      exact .inr (.inr ⟨g, g.values, congrArg Prod.snd (reset_granted hg), fun v hv => hv,
        fun _ => rfl⟩)

/-- A change that keeps the grant leaves it as it was, refused or not. -/
theorem granted_after {c : Viewing.Change} (h : c.keepsGrant = true) :
    (s.after c).granted = s.granted := by
  rcases s.after_cases c with hs | ⟨-, hc⟩ | ⟨g, values, hs, -, hg⟩
  · rw [hs]
  · rw [h] at hc
    cases hc
  · rw [hs, hg h]

/-! ## The invariant -/

/-- What is in use is a part of what is granted, and there is no access exactly where nothing is
granted. -/
structure Sound (s : Session) : Prop where
  noAccess_iff : s.active.noAccess = true ↔ s.granted = none
  granted_of_mem : ∀ v ∈ s.active.values, ∃ g, s.granted = some g ∧ v ∈ g.values

/-- A session without a grant uses nothing. -/
theorem sound_of_none (epoch : Nat) : Sound ⟨none, .none, epoch⟩ where
  noAccess_iff := by simp [ActiveSet.none]
  granted_of_mem := by simp [ActiveSet.none]

/-- A session that uses granted values. -/
theorem sound_of_granted {values : List Attribute} (hv : ∀ v ∈ values, v ∈ g.values)
    (epoch : Nat) : Sound ⟨some g, .ofValues values, epoch⟩ where
  noAccess_iff := by simp
  granted_of_mem v h := ⟨g, rfl, hv v (ActiveSet.mem_values_ofValues.mp h)⟩

/-- Every change keeps the invariant. -/
theorem Sound.after (h : s.Sound) (c : Viewing.Change) : (s.after c).Sound := by
  rcases s.after_cases c with hs | ⟨hs, -⟩ | ⟨g, values, hs, hv, -⟩
  · rwa [hs]
  · rw [hs]
    exact sound_of_none _
  · rw [hs]
    exact sound_of_granted hv _

/-! ## Runs -/

/-- The session after several changes, oldest first. -/
def run (s : Session) (changes : List Viewing.Change) : Session := changes.foldl after s

theorem run_snoc (s : Session) (changes : List Viewing.Change) (c : Viewing.Change) :
    s.run (changes ++ [c]) = (s.run changes).after c := by
  simp [run]

/-- Every run from a sound session ends in one. -/
theorem Sound.run (h : s.Sound) (changes : List Viewing.Change) : (s.run changes).Sound := by
  -- from the end, so that the last change meets a session that is sound already
  induction changes using List.reverseRecOn with
  | nil => exact h
  | append_singleton changes c ih =>
    rw [run_snoc]
    exact ih.after c

theorem sound_run_initial (changes : List Viewing.Change) : (initial.run changes).Sound :=
  (sound_of_none 0).run changes

/-- A run of changes that keep the grant leaves it as it was. -/
theorem granted_run {changes : List Viewing.Change} (h : ∀ c ∈ changes, c.keepsGrant = true) :
    (s.run changes).granted = s.granted := by
  induction changes using List.reverseRecOn with
  | nil => rfl
  | append_singleton changes c ih =>
    rw [run_snoc, granted_after (h c (by simp)), ih fun c' hc => h c' (by simp [hc])]

/-- What a sound session uses of a grant. -/
theorem Sound.mem_grant (h : s.Sound) (hg : s.granted = some g) {v : Attribute}
    (hv : v ∈ s.active.values) : v ∈ g.values := by
  obtain ⟨g', hg', hv'⟩ := h.granted_of_mem v hv
  rw [hg] at hg'
  exact Option.some.inj hg' ▸ hv'

/-- A sound session holds no name but those of its grant. -/
theorem Sound.exists_granted_of_holds (h : s.Sound) {n : String} (hn : s.active.holds n = true) :
    ∃ g, s.granted = some g ∧ ∃ v ∈ g.values, v.simpleName = n := by
  -- the name is that of a value in use, and the value is a granted one
  obtain ⟨-, v, hv, rfl⟩ := (s.active.holds_iff n).mp hn
  obtain ⟨g, hg, hv⟩ := h.granted_of_mem v hv
  exact ⟨g, hg, v, hv, rfl⟩

/-- A sound session without a grant uses nothing. -/
theorem Sound.active_eq_nil (h : s.Sound) (hg : s.granted = none) :
    s.active.values = [] ∧ s.active.names = [] := by
  have hv : ∀ v, v ∉ s.active.values := by
    intro v hv
    obtain ⟨g, hg', -⟩ := h.granted_of_mem v hv
    rw [hg] at hg'
    cases hg'
  refine ⟨List.eq_nil_iff_forall_not_mem.mpr hv, List.eq_nil_iff_forall_not_mem.mpr ?_⟩
  intro n hn
  obtain ⟨-, v, hv', -⟩ := (s.active.mem_names_iff n).mp hn
  exact hv v hv'

/-- **What is in use after any run.**  There is no access exactly where nothing is granted, and
then there are neither values nor names.  The values in use are granted ones, once each; the names
are their simple names, so that every name held is that of a granted value.  And however the
session is narrowed and reset from there on, nothing beyond the same grant comes into use. -/
theorem active_within_grant (changes : List Viewing.Change) :
    let s := initial.run changes
    ((s.active.noAccess = true ↔ s.granted = none) ∧
      (s.granted = none → s.active.values = [] ∧ s.active.names = [])) ∧
    ((∀ v ∈ s.active.values, ∃ g, s.granted = some g ∧ g.contains v = true) ∧
      s.active.values.Nodup) ∧
    (s.active.names.Nodup ∧
      (∀ n, n ∈ s.active.names ↔ n ≠ "" ∧ ∃ v ∈ s.active.values, v.simpleName = n) ∧
      ∀ n, s.active.holds n = true → ∃ g, s.granted = some g ∧ ∃ v ∈ g.values, v.simpleName = n) ∧
    ∀ g, s.granted = some g → ∀ later : List Viewing.Change, (∀ c ∈ later, c.keepsGrant = true) →
      (s.run later).granted = some g ∧
      (∀ v ∈ (s.run later).active.values, v ∈ g.values) ∧
      ∀ n, (s.run later).active.holds n = true → ∃ v ∈ g.values, v.simpleName = n := by
  intro s
  have hs : s.Sound := sound_run_initial changes
  refine ⟨⟨hs.noAccess_iff, hs.active_eq_nil⟩, ⟨fun v hv => ?_, s.active.nodup_values⟩,
    ⟨s.active.nodup_names, s.active.mem_names_iff, fun n => hs.exists_granted_of_holds⟩,
    fun g hg later hl => ?_⟩
  · obtain ⟨g, hg, hv⟩ := hs.granted_of_mem v hv
    exact ⟨g, hg, Grant.contains_iff.mpr hv⟩
  · -- the invariant holds at the end of the longer run, where the grant is still the same
    have hg' : (s.run later).granted = some g := (granted_run hl).trans hg
    refine ⟨hg', fun v => (hs.run later).mem_grant hg', fun n hn => ?_⟩
    obtain ⟨g', hg'', hv⟩ := (hs.run later).exists_granted_of_holds hn
    rw [hg'] at hg''
    exact Option.some.inj hg'' ▸ hv

end Session
end Clearance
