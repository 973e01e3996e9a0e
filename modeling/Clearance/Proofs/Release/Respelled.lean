import Mathlib.Data.List.Forall2
import Clearance.Proofs.Banner.Gathering
import Clearance.Proofs.Entitlement.Run
import Clearance.Proofs.Text.Respelling

/-!
# Decisions whatever the spelling

An object and a viewer may have their attributes from different sources, which spell them in ways of
their own.  Every attribute, of an object or of a viewer, may be replaced by another spelling of it,
each by one of its own: a decision comes out the same, with the same reason and the same names, and
so does the banner of any objects.

## Main definitions

* `Attribute.Respelled`: two spellings of an attribute
* `Marking.Respelled`: an object whose attributes are spelled in other ways

## Main results

* `explain_eq_of_names`: a decision rests on the names alone
* `respelled_alike`: decisions and banners do not depend on the spelling
-/

namespace Clearance

open Marking (classifications needs releases)

/-! ## Attributes and their names -/

/-- Two spellings of an attribute. -/
def Attribute.Respelled (v w : Attribute) : Prop := Text.Respelled v.text.toList w.text.toList

instance (v w : Attribute) : Decidable (v.Respelled w) :=
  inferInstanceAs (Decidable (Text.Respelled _ _))

namespace Attribute

variable {v w : Attribute} {vs ws : List Attribute}

theorem Respelled.simpleName_eq (h : v.Respelled w) : w.simpleName = v.simpleName :=
  congrArg String.ofList (Text.Respelled.simpleNameChars_eq h).symm

/-- Attributes that are spelled in other ways have the same names. -/
theorem names_eq_of_respelled (h : List.Forall₂ Respelled vs ws) : names ws = names vs := by
  have hmap : ws.map simpleName = vs.map simpleName := by
    induction h with
    | nil => rfl
    | cons hv _ ih => rw [List.map_cons, List.map_cons, hv.simpleName_eq, ih]
  rw [names, names, hmap]

end Attribute

/-! ## Objects -/

/-- The attributes of an object are spelled in other ways, each in its place. -/
structure Marking.Respelled (m m' : Marking) : Prop where
  classification : List.Forall₂ Attribute.Respelled m.classification m'.classification
  needToKnow : List.Forall₂ Attribute.Respelled m.needToKnow m'.needToKnow
  relTo : List.Forall₂ Attribute.Respelled m.relTo m'.relTo

/-- The names of several objects, category by category. -/
theorem Marking.names_eq_of_respelled {l l' : List Marking} (h : List.Forall₂ Respelled l l') :
    classifications l' = classifications l ∧ needs l' = needs l ∧ releases l' = releases l := by
  induction h with
  | nil => exact ⟨rfl, rfl, rfl⟩
  | cons hm _ ih =>
    obtain ⟨hc, hn, hr⟩ := ih
    simp only [classifications, needs, releases, List.flatMap_cons] at hc hn hr ⊢
    rw [hc, hn, hr, Attribute.names_eq_of_respelled hm.classification,
      Attribute.names_eq_of_respelled hm.needToKnow, Attribute.names_eq_of_respelled hm.relTo]
    exact ⟨rfl, rfl, rfl⟩

/-! ## Decisions and banners -/

variable {m m' : Marking} {a a' : ActiveSet} {l l' : List Marking}

/-- **A decision rests on names alone**: those of the object, and those that are held. -/
theorem explain_eq_of_names
    (hc : Attribute.names m'.classification = Attribute.names m.classification)
    (hn : Attribute.names m'.needToKnow = Attribute.names m.needToKnow)
    (hr : Attribute.names m'.relTo = Attribute.names m.relTo)
    (hholds : ∀ n, a'.holds n = a.holds n) : explain m' a' = explain m a := by
  have hholds : a'.holds = a.holds := funext hholds
  have hrequired : m'.required = m.required := by rw [Marking.required, hc, hn, Marking.required]
  have hreleased : m'.released = m.released := hr
  have hlacks : lacksRelease m'.relTo a' = lacksRelease m.relTo a := by
    rw [lacksRelease, hr, hholds, lacksRelease]
  rw [explain, hrequired, hreleased, hlacks, hholds, explain]

/-- What a viewer holds are the names that were granted. -/
theorem ActiveSet.holds_full_eq (granted : List Attribute) (n : String) :
    (full (.ofList granted)).holds n = decide (n ∈ Attribute.names granted) := by
  rw [Bool.eq_iff_iff, holds_full_ofList, decide_eq_true_iff, Attribute.mem_names]

/-- The banner of some objects rests on their names alone. -/
theorem Banner.compute_eq_of_names (hc : classifications l' = classifications l)
    (hn : needs l' = needs l) (hr : releases l' = releases l) : compute l' = compute l := by
  rw [compute, compute, Tally.ofList_eq, Tally.ofList_eq, hc, hn, hr]

/-- **Decisions and banners do not depend on the spelling.**  Let the attributes of an object be
spelled in other ways, and those that a viewer was granted as well, each in a way of its own.  The
verdict on the object for a viewer with all that was granted is the same, names included.  The
banner of any objects whose attributes are spelled in other ways is the same too. -/
theorem respelled_alike :
    (∀ m m' granted granted', m.Respelled m' →
      List.Forall₂ Attribute.Respelled granted granted' →
      explain m' (.full (.ofList granted')) = explain m (.full (.ofList granted))) ∧
    ∀ l l', List.Forall₂ Marking.Respelled l l' → Banner.compute l' = Banner.compute l := by
  constructor
  · intro m m' granted granted' hm hgranted
    refine explain_eq_of_names (Attribute.names_eq_of_respelled hm.classification)
      (Attribute.names_eq_of_respelled hm.needToKnow) (Attribute.names_eq_of_respelled hm.relTo) ?_
    intro n
    rw [ActiveSet.holds_full_eq, ActiveSet.holds_full_eq, Attribute.names_eq_of_respelled hgranted]
  · intro l l' hl
    obtain ⟨hc, hn, hr⟩ := Marking.names_eq_of_respelled hl
    exact Banner.compute_eq_of_names hc hn hr

/-- A segment of white space is as empty as none, and a release that is not held is named in the
same way. -/
theorem respelled_alike_of_white_space :
    let m : Marking := ⟨"o", [⟨"https://d.com/attr/classification/value/secret"⟩],
      [⟨"int"⟩, ⟨" / "⟩], [⟨"usa"⟩]⟩
    let m' : Marking := ⟨"o", [⟨"  SeCrEt"⟩], [⟨"x/y/ InT\t"⟩, ⟨""⟩],
      [⟨"https://other.org/attr/program/value/Usa "⟩]⟩
    let granted : List Attribute := [⟨"INT"⟩, ⟨"a/secret"⟩]
    let granted' : List Attribute := [⟨"b/ int"⟩, ⟨"Secret\n"⟩]
    m.Respelled m' ∧ List.Forall₂ Attribute.Respelled granted granted' ∧
      explain m (.full (.ofList granted)) = .noRelToOverlap ["USA"] ∧
      explain m' (.full (.ofList granted')) = .noRelToOverlap ["USA"] ∧
      Banner.compute [m'] = Banner.compute [m] := by
  intro m m' granted granted'
  have hm : m.Respelled m' :=
    ⟨.cons (by decide) .nil, .cons (by decide) (.cons (by decide) .nil), .cons (by decide) .nil⟩
  have hgranted : List.Forall₂ Attribute.Respelled granted granted' :=
    .cons (by decide) (.cons (by decide) .nil)
  have hverdict : explain m (.full (.ofList granted)) = .noRelToOverlap ["USA"] := by
    decide +kernel
  obtain ⟨hexplain, hbanner⟩ := respelled_alike
  exact ⟨hm, hgranted, hverdict, (hexplain m m' granted granted' hm hgranted).trans hverdict,
    hbanner [m] [m'] (.cons hm .nil)⟩

end Clearance
