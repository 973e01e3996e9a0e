import Clearance.Banner
import Clearance.Proofs.Marking.Level

/-!
# Gathering in groups

What is gathered from markings depends on their order alone, and not on how they were grouped: the
order in which names first came survives when groups are gathered on their own and then combined.
So gathering takes lists of markings to tallies, appending to combining, and no markings to the
empty tally.  Only the finished banner leaves names out, so banners themselves do not combine.

## Main definitions

* `Tally.Gathering`: the ways to gather a tally out of parts

## Main results

* `Tally.foldl_add`: what is gathered on top of a tally, part by part
* `Tally.ofList_append`, `Tally.combine_assoc`, `Tally.empty_combine`: the laws
* `Tally.Gathering.tally_eq`: every way to gather the same markings in the same order is the same
* `Tally.gathered_in_groups`: all of it, finished banners among it
-/

namespace Clearance

namespace Marking

/-- The classifications of some markings, by name. -/
def classifications (l : List Marking) : List String :=
  l.flatMap fun m => Attribute.names m.classification

/-- The needs to know of some markings, by name. -/
def needs (l : List Marking) : List String := l.flatMap fun m => Attribute.names m.needToKnow

/-- The releases of some markings, by name. -/
def releases (l : List Marking) : List String := l.flatMap fun m => Attribute.names m.relTo

end Marking

namespace Tally

open Marking (classifications needs releases)

/-! ## What is gathered -/

/-- What some markings add to a tally: the highest of their levels, and the names that are new. -/
theorem foldl_add (t : Tally) (l : List Marking) :
    l.foldl add t =
      t.extend (((classifications l).filterMap Level.ofName?).foldl max t.level) (needs l)
        ((classifications l).filter fun n => (Level.ofName? n).isNone) (releases l) := by
  induction l generalizing t with
  | nil => rfl
  | cons m rest ih =>
    rw [List.foldl_cons, ih]
    simp only [add, extend, classifications, needs, releases, List.flatMap_cons,
      List.filterMap_append, List.filter_append, List.foldl_append, Distinct.addAll_append]

/-- What is gathered from some markings. -/
theorem ofList_eq (l : List Marking) :
    ofList l =
      { level := ((classifications l).filterMap Level.ofName?).foldl max .unclassified
        needToKnow := Distinct.ofList (needs l)
        unranked :=
          Distinct.ofList ((classifications l).filter fun n => (Level.ofName? n).isNone)
        relTo := Distinct.ofList (releases l)
        nodup_needToKnow := Distinct.nodup_ofList _
        nodup_unranked := Distinct.nodup_ofList _
        nodup_relTo := Distinct.nodup_ofList _ } :=
  foldl_add empty l

/-! ## The laws of combining -/

theorem combine_assoc (s t u : Tally) : (s.combine t).combine u = s.combine (t.combine u) := by
  simp only [combine, extend, Distinct.addAll_addAll, Std.Associative.assoc]

theorem combine_empty (t : Tally) : t.combine empty = t := by
  simp [combine, extend, empty]

/-- Names that are listed once each are added to nothing as they are. -/
theorem empty_combine (t : Tally) : empty.combine t = t := by
  have hneeds := Distinct.ofList_eq_self_iff.mpr t.nodup_needToKnow
  have hunranked := Distinct.ofList_eq_self_iff.mpr t.nodup_unranked
  have hreleases := Distinct.ofList_eq_self_iff.mpr t.nodup_relTo
  rw [Distinct.ofList] at hneeds hunranked hreleases
  simp [combine, extend, empty, hneeds, hunranked, hreleases]

/-- Adding to a tally is combining it with what is added. -/
theorem foldl_add_eq_combine (t : Tally) (l : List Marking) :
    l.foldl add t = t.combine (ofList l) := by
  rw [foldl_add, ofList_eq, combine, Level.foldl_max]
  simp only [extend, Distinct.ofList, Distinct.addAll_addAll, Distinct.addAll_nil]

/-- **Gathering takes appending to combining.** -/
theorem ofList_append (xs ys : List Marking) :
    ofList (xs ++ ys) = (ofList xs).combine (ofList ys) := by
  rw [ofList, List.foldl_append]
  exact foldl_add_eq_combine (ofList xs) ys

/-! ## The ways to gather -/

/-- The ways to gather a tally: from nothing, by one marking more, and by combining two parts that
were gathered on their own. -/
inductive Gathering where
  | none
  | add (g : Gathering) (m : Marking)
  | combine (g h : Gathering)

namespace Gathering

/-- The tally that is gathered. -/
def tally : Gathering → Tally
  | none => .empty
  | add g m => g.tally.add m
  | combine g h => g.tally.combine h.tally

/-- The markings that are gathered, in order. -/
def markings : Gathering → List Marking
  | none => []
  | add g m => g.markings ++ [m]
  | combine g h => g.markings ++ h.markings

/-- **How the markings were grouped does not matter.** -/
theorem tally_eq (g : Gathering) : g.tally = ofList g.markings := by
  induction g with
  | none => rfl
  | add g m ih =>
    rw [tally, markings, ih, ofList, ofList, List.foldl_append]
    rfl
  | combine g h ihg ihh => rw [tally, markings, ihg, ihh, ofList_append]

end Gathering

/-! ## Finished banners -/

/-- The markings of the notes that can be read. -/
def readable (notes : List Note) : List Marking :=
  notes.filterMap fun note => (Marking.ofNote note).toOption

theorem foldl_addNote (t : Tally) (notes : List Note) :
    notes.foldl addNote t = (readable notes).foldl add t := by
  induction notes generalizing t with
  | nil => rfl
  | cons note rest ih =>
    rw [List.foldl_cons, ih, addNote, readable, readable, List.filterMap_cons]
    cases Marking.ofNote note with
    | ok m => rfl
    | error fault => rfl

/-- The notes that can be read are further objects. -/
theorem ofObject_eq (m : Marking) (notes : List Note) :
    Banner.ofObject m notes = .compute (m :: readable notes) := by
  rw [Banner.ofObject, foldl_addNote]
  rfl

/-- Groups that are gathered on their own and combined in order. -/
theorem foldl_combine_map_ofList (groups : List (List Marking)) (l : List Marking) :
    (groups.map ofList).foldl combine (ofList l) = ofList (l ++ groups.flatten) := by
  induction groups generalizing l with
  | nil => simp
  | cons group rest ih =>
    rw [List.map_cons, List.foldl_cons, ← ofList_append, ih, List.flatten_cons, List.append_assoc]

/-- **A banner does not depend on how its markings were grouped.**  No tally lists a name twice.
Gathering takes appending to combining and no markings to the empty tally; combining is associative,
and the empty tally is neutral on both sides.  So every way to gather the same markings in the same
order gives the same tally, names in the order in which they first came, and the same banner; groups
combined one after the other among them.  The banner of an object with its notes is that of its
marking followed by the markings of the notes that can be read. -/
theorem gathered_in_groups :
    (ofList [] = empty ∧ ∀ xs ys, ofList (xs ++ ys) = (ofList xs).combine (ofList ys)) ∧
    ((∀ s t u : Tally, (s.combine t).combine u = s.combine (t.combine u)) ∧
      ∀ t : Tally, (t.combine empty = t ∧ empty.combine t = t) ∧
        t.needToKnow.Nodup ∧ t.unranked.Nodup ∧ t.relTo.Nodup) ∧
    (∀ g : Gathering, g.tally = ofList g.markings ∧ g.tally.finish = .compute g.markings) ∧
    (∀ groups : List (List Marking),
      ((groups.map ofList).foldl combine empty).finish = .compute groups.flatten) ∧
    ∀ m notes, Banner.ofObject m notes = .compute (m :: readable notes) := by
  refine ⟨⟨rfl, ofList_append⟩, ⟨combine_assoc, fun t => ⟨⟨combine_empty t, empty_combine t⟩,
    t.nodup_needToKnow, t.nodup_unranked, t.nodup_relTo⟩⟩, fun g => ?_, fun groups => ?_,
    ofObject_eq⟩
  · exact ⟨g.tally_eq, congrArg finish g.tally_eq⟩
  · exact congrArg finish (foldl_combine_map_ofList groups [])

end Tally
end Clearance
