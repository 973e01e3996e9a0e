import Clearance.Distinct
import Clearance.Marking.Marking

/-!
# Banners

The line at the head of a screen that tells how what it shows is classified: the highest level,
and caveats for all that goes beyond it.  Markings are gathered in a `Tally`, which may be done in
groups, and only the finished banner leaves out what the level already says.

## Main definitions

* `Tally`, `Tally.add`, `Tally.addNote`, `Tally.combine`: what was gathered so far.
* `Banner`, `Tally.finish`, `Banner.display`: level and caveats.
* `Banner.compute`, `Banner.ofObject`: the banner of some objects, and of one with its notes.
-/

namespace Clearance

/-- The level of a screen, and its caveats in order. -/
structure Banner where
  level : Level
  caveats : List String
  deriving DecidableEq, Repr

/-- The line that shows a banner. -/
def Banner.display (b : Banner) : String :=
  b.caveats.foldl (fun line c => line ++ "//" ++ c) b.level.name

/-- The document of a banner. -/
def Banner.toJson (b : Banner) : Json :=
  .object [("level", .string b.level.name), ("caveats", .ofStrings b.caveats)]

/-- What was gathered from markings: the highest level, and names in the order in which they first
came, once each. -/
structure Tally where
  level : Level
  needToKnow : List String
  unranked : List String
  relTo : List String
  nodup_needToKnow : needToKnow.Nodup
  nodup_unranked : unranked.Nodup
  nodup_relTo : relTo.Nodup
  deriving Repr

namespace Tally

/-- Nothing gathered. -/
def empty : Tally where
  level := .unclassified
  needToKnow := []
  unranked := []
  relTo := []
  nodup_needToKnow := List.nodup_nil
  nodup_unranked := List.nodup_nil
  nodup_relTo := List.nodup_nil

/-- What was gathered, with the level that is reached now and with further names. -/
def extend (t : Tally) (level : Level) (needToKnow unranked relTo : List String) : Tally where
  level := level
  needToKnow := Distinct.addAll t.needToKnow needToKnow
  unranked := Distinct.addAll t.unranked unranked
  relTo := Distinct.addAll t.relTo relTo
  nodup_needToKnow := Distinct.nodup_addAll t.nodup_needToKnow _
  nodup_unranked := Distinct.nodup_addAll t.nodup_unranked _
  nodup_relTo := Distinct.nodup_addAll t.nodup_relTo _

/-- Add the markings of an object.  Classifications of no ranked level are caveats. -/
def add (t : Tally) (m : Marking) : Tally :=
  let names := Attribute.names m.classification
  t.extend ((names.filterMap Level.ofName?).foldl max t.level) (Attribute.names m.needToKnow)
    (names.filter fun n => (Level.ofName? n).isNone) (Attribute.names m.relTo)

/-- Add the markings of a note.  A note that cannot be read is passed over. -/
def addNote (t : Tally) (note : Note) : Tally :=
  match Marking.ofNote note with
  | .ok m => t.add m
  | .error _ => t

/-- Gather the markings of several objects. -/
def ofList (l : List Marking) : Tally := l.foldl add empty

/-- What was gathered in one group and then in another. -/
def combine (s t : Tally) : Tally :=
  s.extend (max s.level t.level) t.needToKnow t.unranked t.relTo

/-- The names that go beyond the level. -/
def beyond (t : Tally) (names : List String) : List String := names.filter (· ≠ t.level.name)

/-- The banner of what was gathered.  The releases make one caveat, the last. -/
def finish (t : Tally) : Banner where
  level := t.level
  caveats :=
    Distinct.ofList (t.beyond (t.needToKnow ++ t.unranked)) ++
      match t.beyond t.relTo with
      | [] => []
      | names => ["REL TO " ++ Text.joinWith ", " names]

end Tally

namespace Banner

/-- The banner of some objects. -/
def compute (l : List Marking) : Banner := (Tally.ofList l).finish

/-- The banner of an object together with its notes. -/
def ofObject (m : Marking) (notes : List Note) : Banner :=
  (notes.foldl Tally.addNote (Tally.empty.add m)).finish

end Banner
end Clearance
