import Clearance.Marking.Attribute
import Clearance.Payload
import Clearance.Record.Source

/-!
# Markings

The attributes by which an object or a note is protected.  They are taken from well-known keys of
a payload, where a value may be a string, or an array of strings and of objects with a string
under `value`.  Blank values are left out, and so are fully qualified names of a category that is
not known.

## Main definitions

* `Marking`: the attributes of one object.
* `Marking.ofPayload`, `Marking.ofNote`: the markings of a payload and of a note.
* `Marking.level`: the highest ranked level among the classifications.
-/

namespace Clearance

/-- The attributes of one object: all classifications and needs to know are required of a viewer,
and one of the releases. -/
structure Marking where
  id : String
  classification : List Attribute := []
  needToKnow : List Attribute := []
  relTo : List Attribute := []
  deriving DecidableEq, Repr

namespace Marking

/-- The keys of a category in a payload.  The first that is present counts. -/
def keys : Category → List String
  | .classification => ["attrClassification"]
  | .needToKnow => ["attrNeedToKnow", "attrNeedtoknow"]
  | .relTo => ["attrRelTo", "attrRelto"]

/-- The value of the first key that is present. -/
def firstPresent (payload : Fields) (keys : List String) : Option Json :=
  keys.findSome? payload.get?

/-- The text of an item: a string, or an object with a string under `value`. -/
def itemText? : Json → Option String
  | .string s => some s
  | .object members => (Keyed.find? "value" members).bind Json.string?
  | _ => none

/-- The texts of a value: a string, or the items of an array. -/
def texts : Option Json → List String
  | some (.string s) => [s]
  | some (.array items) => items.filterMap itemText?
  | _ => []

/-- A fully qualified name of a category that is not known. -/
def isForeign (a : Attribute) : Bool := a.categorySegment?.isSome && a.category?.isNone

/-- The attributes of a value, trimmed. -/
def attributes (value : Option Json) : List Attribute :=
  (((texts value).map Text.trim).filter (· ≠ "")).map Attribute.mk |>.filter fun a => !isForeign a

/-- The attributes of one category in a payload. -/
def listed (payload : Fields) (category : Category) : List Attribute :=
  attributes (firstPresent payload (keys category))

/-- The markings of a payload. -/
def ofPayload (id : String) (payload : Fields) : Marking where
  id := id
  classification := listed payload .classification
  needToKnow := listed payload .needToKnow
  relTo := listed payload .relTo

/-- The markings of a note, which are kept as text.  A note without text, or with blank text, has
none. -/
def ofNote (note : Note) : Except ObjectFault Marking :=
  let text := (note.search.map fun s => Text.trimChars s.toList).getD []
  if text.isEmpty then .ok { id := note.id }
  else
    match Json.parse text with
    | .error fault => .error (.malformed "note.search" fault)
    | .ok v =>
      match v.fields? with
      | some f => .ok (ofPayload note.id f)
      | none => .error (.notAnObject "note.search")

/-- No attribute at all. -/
def isUnmarked (m : Marking) : Bool :=
  m.classification.isEmpty && m.needToKnow.isEmpty && m.relTo.isEmpty

/-- The highest ranked level among the classifications. -/
def level (m : Marking) : Level :=
  (m.classification.filterMap Attribute.level?).foldl max .unclassified

/-- The simple names that a viewer has to hold, all of them. -/
def required (m : Marking) : List String :=
  Attribute.names m.classification ++ Attribute.names m.needToKnow

/-- The simple names of which a viewer has to hold one, if there are any. -/
def released (m : Marking) : List String := Attribute.names m.relTo

/-- The document of a marking. -/
def toJson (m : Marking) : Json :=
  .object
    [("id", .string m.id), ("classification", .ofStrings (m.classification.map (·.text))),
      ("need_to_know", .ofStrings (m.needToKnow.map (·.text))),
      ("rel_to", .ofStrings (m.relTo.map (·.text)))]

end Marking
end Clearance
