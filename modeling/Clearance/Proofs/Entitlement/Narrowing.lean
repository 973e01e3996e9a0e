import Clearance.Proofs.Entitlement.Ceiling

/-!
# Narrower and wider choices

One choice of what stays in use is within another if its ceiling is not higher and its lists name
no more.  It then keeps no more of a grant, so that no more names are held.  A verdict asks for
some names at once and for one of others, and neither is harder to meet with more names.  So
nothing comes to light by choosing less, and nothing that is shown under any choice is withheld
under the whole grant.

## Main definitions

* `ActiveSet.Within`, `ActiveSet.ShowsNoMore`: active sets compared by their names, and by what
  they show
* `Selection.Within`: selections compared by their ceilings and their lists
* `Session.Uses`: an operation is accepted and puts an active set into use

## Main results

* `ActiveSet.Within.showsNoMore`: fewer names show no more
* `Selection.Within.keeps`: a selection keeps what a selection within it keeps
* `Session.uses_narrow_iff`, `Session.uses_narrowTo_iff`: what the choices put into use
* `Session.shown_of_narrower`: a narrower choice shows no more, and no choice shows more than the
  whole grant
-/

namespace Clearance

/-! ## Fewer names show no more -/

theorem explainNote_eq_allowed_iff {note : Note} {a : ActiveSet} :
    explainNote note a = .allowed ↔ ∃ m, Marking.ofNote note = .ok m ∧ explain m a = .allowed := by
  unfold explainNote
  cases Marking.ofNote note with
  | ok m => simp
  | error fault => simp -- the note is unreadable

namespace ActiveSet

variable {a b : ActiveSet}

/-- The names that are held are held by the other set too. -/
def Within (a b : ActiveSet) : Prop := ∀ n, a.holds n = true → b.holds n = true

/-- The objects and the notes that are shown are shown under the other set too. -/
structure ShowsNoMore (a b : ActiveSet) : Prop where
  objects : ∀ m, explain m a = .allowed → explain m b = .allowed
  notes : ∀ note, explainNote note a = .allowed → explainNote note b = .allowed

theorem Within.allHeld {m : Marking} (hab : a.Within b) (h : m.AllHeld a) : m.AllHeld b := by
  intro n hn
  exact hab n (h n hn)

theorem Within.releaseMet {m : Marking} (hab : a.Within b) (h : m.ReleaseMet a) :
    m.ReleaseMet b := by
  -- one name is enough, and it is still held
  rcases h with hnone | ⟨n, hn, hheld⟩
  · exact .inl hnone
  · exact .inr ⟨n, hn, hab n hheld⟩

/-- **Fewer names show no more**, be it objects or notes. -/
theorem Within.showsNoMore (hab : a.Within b) : a.ShowsNoMore b := by
  have hobjects : ∀ m, explain m a = .allowed → explain m b = .allowed := by
    intro m hm
    obtain ⟨hall, hrelease⟩ := explain_eq_allowed_iff.mp hm
    exact explain_eq_allowed_iff.mpr ⟨hab.allHeld hall, hab.releaseMet hrelease⟩
  refine ⟨hobjects, ?_⟩
  intro note hnote
  -- a note that is shown can be read, and is an object from there on
  obtain ⟨m, hread, hm⟩ := explainNote_eq_allowed_iff.mp hnote
  exact explainNote_eq_allowed_iff.mpr ⟨m, hread, hobjects m hm⟩

/-- Fewer values hold fewer names. -/
theorem within_ofValues {values values' : List Attribute} (h : values ⊆ values') :
    (ofValues values).Within (ofValues values') := by
  intro n hn
  obtain ⟨hne, v, hv, hname⟩ := ((ofValues values).holds_iff n).mp hn
  rw [mem_values_ofValues] at hv
  exact ((ofValues values').holds_iff n).mpr
    ⟨hne, v, mem_values_ofValues.mpr (h hv), hname⟩

end ActiveSet

/-! ## Narrower selections keep no more -/

namespace Selection

variable {s t : Selection}

/-- The ceiling is not above that of the other selection, and every name of either list is in the
list of the other one, white space and case apart. -/
structure Within (s t : Selection) : Prop where
  classification : s.classification ≤ t.classification
  needToKnow : s.needToKnow.map normalName ⊆ t.needToKnow.map normalName
  relTo : s.relTo.map normalName ⊆ t.relTo.map normalName

theorem lists_of_subset {names names' : List String} {n : String}
    (h : names.map normalName ⊆ names'.map normalName) (hn : lists names n = true) :
    lists names' n = true := by
  rw [lists, decide_eq_true_eq] at hn ⊢
  exact h hn

/-- **A selection keeps what a selection within it keeps.** -/
theorem Within.keeps (h : s.Within t) {v : Attribute} (hk : s.keeps v = true) :
    t.keeps v = true := by
  unfold Selection.keeps at hk ⊢
  by_cases hne : v.simpleName = ""
  · simp [hne] at hk
  · rw [if_neg hne] at hk ⊢
    -- each category has its own part of the selection
    rcases hc : v.category? with _ | _ | _ | _
    · rfl
    · rw [hc] at hk
      cases hl : Level.ofName? v.simpleName with
      | none => simp [hl] at hk
      | some l =>
        simp only [hl, Level.mem_subordinates, decide_eq_true_eq] at hk ⊢
        exact Level.le_trans hk h.classification
    · rw [hc] at hk
      exact lists_of_subset h.needToKnow hk
    · rw [hc] at hk
      exact lists_of_subset h.relTo hk

end Selection

/-! ## What comes into use -/

namespace Session

variable {s s' : Session} {g : Grant} {a : ActiveSet}

/-- The operation was accepted, and put an active set into use. -/
def Uses (result : Answer × Session) (a : ActiveSet) : Prop :=
  result.1 = .ok a ∧ result.2.active = a

theorem uses_ok_iff {granted : Option Grant} {b : ActiveSet} {epoch : Nat} :
    Uses (.ok b, ⟨granted, b, epoch⟩) a ↔ a = b := by
  constructor
  · rintro ⟨h, -⟩
    exact (Except.ok.inj h).symm
  · rintro rfl
    exact ⟨rfl, rfl⟩

theorem uses_reset_iff (hs : s.granted = some g) : Uses s.reset a ↔ a = .full g := by
  rw [reset_granted hs, uses_ok_iff]

theorem uses_narrow_iff (hs : s.granted = some g) {selection : Selection} :
    Uses (s.narrow selection) a ↔ a = .ofValues (g.values.filter selection.keeps) := by
  rw [narrow_granted hs, uses_ok_iff]

/-- A choice of values is accepted only if all of them were granted. -/
theorem uses_narrowTo_iff (hs : s.granted = some g) {values : List Attribute} :
    Uses (s.narrowTo values) a ↔ values ⊆ g.values ∧ a = .ofValues values := by
  by_cases hv : values ⊆ g.values
  · rw [narrowTo_granted hs fun v h => hv h, uses_ok_iff]
    simp [hv]
  · obtain ⟨v, hmem, hnot⟩ : ∃ v ∈ values, v ∉ g.values := by
      simpa only [List.subset_def, not_forall, exists_prop] using hv
    rw [narrowTo_not_granted hs hmem hnot]
    simp [Uses, hv]

/-- **A narrower choice shows no more.**  Take two sessions with the same grant, which may have been
narrowed before.  Narrowing the one by a selection within the selection of the other is accepted as
well, and every object and every note that is then shown in the one is shown in the other.  And
what is shown after any narrowing, by a selection or to some values, is shown with the whole grant,
which is what a reset and a new sign-in put into use. -/
theorem shown_of_narrower {list : List Attribute} (hs : s.granted = some (.ofList list))
    (hs' : s'.granted = some (.ofList list)) :
    (∀ selection selection' : Selection, selection.Within selection' →
      ∃ a a', Uses (s.narrow selection) a ∧ Uses (s'.narrow selection') a' ∧ a.ShowsNoMore a') ∧
    ∃ whole, (Uses s'.reset whole ∧ ∀ t : Session, Uses (t.signIn (some list)) whole) ∧
      (∀ selection a, Uses (s.narrow selection) a → a.ShowsNoMore whole) ∧
      ∀ values a, Uses (s.narrowTo values) a → a.ShowsNoMore whole := by
  constructor
  · intro selection selection' h
    refine ⟨_, _, (uses_narrow_iff hs).mpr rfl, (uses_narrow_iff hs').mpr rfl, ?_⟩
    apply ActiveSet.Within.showsNoMore
    apply ActiveSet.within_ofValues
    -- of one grant the wider selection keeps at least as many values
    exact (List.monotone_filter_right _ fun v hv => h.keeps hv).subset
  · refine ⟨.full (.ofList list), ⟨(uses_reset_iff hs').mpr rfl, fun t => ⟨rfl, rfl⟩⟩, ?_, ?_⟩
    · intro selection a ha
      obtain rfl := (uses_narrow_iff hs).mp ha
      exact (ActiveSet.within_ofValues List.filter_sublist.subset).showsNoMore
    · intro values a ha
      obtain ⟨hv, rfl⟩ := (uses_narrowTo_iff hs).mp ha
      exact (ActiveSet.within_ofValues hv).showsNoMore

/-- A need to know that is selected in either way, in a session that used nothing before: the object
that asks for it is shown under the narrower selection, and so under the wider one. -/
theorem shown_of_narrower_needToKnow :
    let list : List Attribute :=
      [⟨"https://demo.com/attr/classification/value/secret"⟩,
        ⟨"https://demo.com/attr/needtoknow/value/int"⟩, ⟨"https://demo.com/attr/relto/value/usa"⟩]
    let selection : Selection := { classification := .confidential, needToKnow := [" int "] }
    let selection' : Selection :=
      { classification := .topSecret, needToKnow := ["sigint", "INT"], relTo := ["usa"] }
    let m : Marking := { id := "o", needToKnow := [⟨"int"⟩] }
    let s := (initial.signIn (some list)).2
    let s' := (s.narrowTo []).2
    (s.granted = some (.ofList list) ∧ s'.granted = some (.ofList list) ∧
      selection.Within selection') ∧
      ∃ a a', Uses (s.narrow selection) a ∧ Uses (s'.narrow selection') a' ∧ a ≠ a' ∧
        explain m a = .allowed ∧ explain m a' = .allowed := by
  intro list selection selection' m s s'
  have hs : s.granted = some (.ofList list) := rfl
  have hs' : s'.granted = some (.ofList list) := rfl
  have hwithin : selection.Within selection' := ⟨by decide, by decide, by decide⟩
  obtain ⟨a, a', ha, ha', hshows⟩ := (shown_of_narrower hs hs').1 selection selection' hwithin
  obtain rfl := (uses_narrow_iff hs).mp ha
  have hm : explain m (.ofValues ((Grant.ofList list).values.filter selection.keeps)) =
      .allowed := by decide
  refine ⟨⟨hs, hs', hwithin⟩, _, a', ha, ha', ?_, hm, hshows.objects m hm⟩
  obtain rfl := (uses_narrow_iff hs').mp ha'
  decide

end Session
end Clearance
