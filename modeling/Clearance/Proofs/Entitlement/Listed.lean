import Clearance.Proofs.Entitlement.Narrowing

/-!
# Names that are listed

Wherever a simple name is used it is put in normal form once more: where it is looked up as a level,
and where it is looked for in the lists of a selection.  That it is in normal form already makes
these uses agree: a name is that of a level only if it is spelled like it, and a value whose name is
listed as it is stays in use.

## Main definitions

* `Selection.Names`: the name of an attribute is listed for its category

## Main results

* `Selection.keeps_of_names`: what is listed is kept
* `Attribute.simpleName_normalForm`: simple names are in normal form, and what follows from it
-/

namespace Clearance

open Text

variable {v : Attribute}

namespace Selection

variable {s : Selection} {names : List String}

/-- The simple name of an attribute stands, as it is, in the list of its category. -/
def Names (s : Selection) (v : Attribute) : Prop :=
  v.category? = some .needToKnow ∧ v.simpleName ∈ s.needToKnow ∨
    v.category? = some .relTo ∧ v.simpleName ∈ s.relTo

theorem lists_of_mem (h : v.simpleName ∈ names) : lists names v.simpleName = true := by
  rw [lists, decide_eq_true_eq]
  exact List.mem_map.mpr ⟨v.simpleName, h, v.upper_trim_simpleName⟩

/-- **What is listed is kept**, unless it has no name. -/
theorem keeps_of_names (hne : v.simpleName ≠ "") (h : s.Names v) : s.keeps v = true := by
  rw [keeps, if_neg hne]
  rcases h with ⟨hcategory, hlisted⟩ | ⟨hcategory, hlisted⟩
  · rw [hcategory]
    exact lists_of_mem hlisted
  · rw [hcategory]
    exact lists_of_mem hlisted

end Selection

/-- **Simple names are in normal form**: there is neither a slash in them nor white space around
them, and each is its own simple name.  So a name is that of a level exactly when it is spelled like
it, and a granted need to know or release whose name is listed for its category, as it is, is among
the values that a narrowing puts into use, unless it has no name. -/
theorem Attribute.simpleName_normalForm (v : Attribute) :
    ('/' ∉ v.simpleName.toList ∧ Trimmed v.simpleName.toList ∧
      (⟨v.simpleName⟩ : Attribute).simpleName = v.simpleName) ∧
    (∀ l : Level, Level.ofName? v.simpleName = some l ↔ v.simpleName = l.name) ∧
    ∀ (s : Session) (g : Grant) (selection : Selection), s.granted = some g → v ∈ g.values →
      v.simpleName ≠ "" → selection.Names v →
        ∃ a, Session.Uses (s.narrow selection) a ∧ v ∈ a.values ∧ a.holds v.simpleName = true := by
  refine ⟨⟨v.slash_not_mem_simpleName, v.trimmed_simpleName, v.simpleName_simpleName⟩,
    fun l => level?_eq_some_iff, fun s g selection hs hv hne hnames => ?_⟩
  have hkept : v ∈ g.values.filter selection.keeps :=
    List.mem_filter.mpr ⟨hv, Selection.keeps_of_names hne hnames⟩
  refine ⟨_, (Session.uses_narrow_iff hs).mpr rfl, ActiveSet.mem_values_ofValues.mpr hkept, ?_⟩
  exact (ActiveSet.holds_iff _ _).mpr
    ⟨hne, v, ActiveSet.mem_values_ofValues.mpr hkept, rfl⟩

/-- A name that grows in upper case, in a category that is spelled in its own way, with white space
after the value. -/
theorem Attribute.simpleName_normalForm_sharp_s :
    let v : Attribute := ⟨"https://demo.com/Attr/Need-To-Know/value/straße "⟩
    let s := (Session.initial.signIn (some [⟨"secret"⟩, v])).2
    let selection : Selection := { needToKnow := ["int", "STRASSE"] }
    (s.granted = some (.ofList [⟨"secret"⟩, v]) ∧ v.simpleName = "STRASSE" ∧
      selection.Names v) ∧
      (⟨"STRASSE"⟩ : Attribute).simpleName = "STRASSE" ∧ Level.ofName? v.simpleName = none ∧
      ∃ a, Session.Uses (s.narrow selection) a ∧ v ∈ a.values ∧ a.holds "STRASSE" = true := by
  intro v s selection
  have hs : s.granted = some (.ofList [⟨"secret"⟩, v]) := rfl
  have hname : v.simpleName = "STRASSE" := by decide +kernel
  have hnames : selection.Names v := .inl ⟨by decide +kernel, by rw [hname]; decide⟩
  obtain ⟨⟨-, -, hself⟩, hlevel, hkept⟩ := simpleName_normalForm v
  have hnone : Level.ofName? v.simpleName = none := by
    refine Option.eq_none_iff_forall_ne_some.mpr fun l hl => ?_
    have hspelled := (hlevel l).mp hl
    rw [hname] at hspelled
    revert hspelled
    cases l <;> decide
  rw [hname] at hself hkept
  exact ⟨⟨hs, hname, hnames⟩, hself, hnone,
    hkept s _ selection hs (by decide) (by decide) hnames⟩

end Clearance
