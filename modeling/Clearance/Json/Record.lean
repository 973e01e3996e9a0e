import Clearance.Json.Format
import Clearance.Json.Skip

/-!
# Records

A record is written as an object with one member per field, and read from such an object with its
members in any order, or from an array of the fields in their own order.  Unknown members are
passed over, and a field may be given once only.

The fields of a record are a `Layout`, a list indexed by the types of their values.  Reading fills
a draft with the values found so far, and `complete` asks at the end for those that are missing.

## Main definitions

* `RecordField`, `Absent`: a field, and what stands for it where it is missing.
* `Layout`, `Layout.Values`, `Layout.Draft`: the fields of a record, their values, and the values
  found so far.
* `Format.record`: the form of a record.
* `Format.tagged`: a record that tells its case by one of its fields.
-/

namespace Clearance.Json

/-- What stands for a field that is missing: nothing; a value, in an object only; or a value,
also where an array ends too early. -/
inductive Absent (α : Type) where
  | refused
  | inObject (value : α)
  | anywhere (value : α)

/-- A field of a record. -/
structure RecordField (α : Type) where
  name : String
  format : Format α
  absent : Absent α := .refused
  /-- Values that are not written. -/
  omitted : α → Bool := fun _ => false

/-- The fields of a record, indexed by the types of their values. -/
inductive Layout : List Type → Type 1 where
  | nil : Layout []
  | cons {α : Type} {ts : List Type} (field : RecordField α) (rest : Layout ts) : Layout (α :: ts)

namespace Layout

/-- One value for each field. -/
def Values : List Type → Type
  | [] => Unit
  | t :: ts => t × Values ts

/-- At most one value for each field. -/
def Draft : List Type → Type
  | [] => Unit
  | t :: ts => Option t × Draft ts

/-- The draft without values. -/
def emptyDraft : (ts : List Type) → Draft ts
  | [] => ()
  | _ :: ts => (none, emptyDraft ts)

variable {ts : List Type}

/-- The number of fields. -/
def size : {ts : List Type} → Layout ts → Nat
  | _, .nil => 0
  | _, .cons _ rest => rest.size + 1

/-- The members that write the values of a record, in the order of its fields. -/
def encode : {ts : List Type} → Layout ts → Values ts → List (String × Json)
  | _, .nil, _ => []
  | _, .cons field rest, (v, vs) =>
    if field.omitted v then rest.encode vs
    else (field.name, field.format.encode v) :: rest.encode vs

/-- The values of a record from what was found of them. -/
def complete : {ts : List Type} → Layout ts → Draft ts → Except Cause (Values ts)
  | _, .nil, () => .ok ()
  | _, .cons field rest, (found, more) => do
    let v ←
      match found, field.absent with
      | some v, _ | none, .inObject v | none, .anywhere v => .ok v
      | none, .refused => .error (.missingField field.name)
    return (v, ← rest.complete more)

/-! ## From documents -/

/-- Put the value of a member into the draft; none when no field has the name. -/
def fill (carrier : Carrier) (name : String) (v : Json) :
    {ts : List Type} → Layout ts → Draft ts → Option (Except Cause (Draft ts))
  | _, .nil, _ => none
  | _, .cons field rest, (found, more) =>
    if name = field.name then
      some <|
        if found.isSome then .error (.duplicateField name)
        else (field.format.decode carrier v).map fun v => (some v, more)
    else (rest.fill carrier name v more).map fun r => r.map fun more => (found, more)

/-- Put the members of an object into the draft, one after another. -/
def fillAll (carrier : Carrier) (layout : Layout ts) :
    List (String × Json) → Draft ts → Except Cause (Draft ts)
  | [], draft => .ok draft
  | (name, v) :: members, draft =>
    match layout.fill carrier name v draft with
    | some r => do fillAll carrier layout members (← r)
    | none => fillAll carrier layout members draft

/-- The values of the items of an array, with the items left over.  `taken` items come before. -/
def decodeItems (carrier : Carrier) (wanted : String) :
    {ts : List Type} → Layout ts → Nat → List Json → Except Cause (Values ts × List Json)
  | _, .nil, _, items => .ok ((), items)
  | _, .cons field rest, taken, items => do
    match items with
    | v :: items =>
      let v ← field.format.decode carrier v
      let (vs, left) ← rest.decodeItems carrier wanted (taken + 1) items
      return ((v, vs), left)
    | [] =>
      match field.absent with
      | .anywhere v =>
        let (vs, left) ← rest.decodeItems carrier wanted (taken + 1) []
        return ((v, vs), left)
      | _ => .error (.wrongLength taken wanted)

/-! ## From texts -/

/-- Read the member behind the name of a field into the draft; none when no field has the name.  A
field given twice is refused before its value is looked at. -/
def readInto (depth : Nat) (name : String) (c : Cursor) :
    {ts : List Type} → Layout ts → Draft ts →
      Option (Except Stop (Except Cause (Draft ts) × Cursor))
  | _, .nil, _ => none
  | _, .cons field rest, (found, more) =>
    if name = field.name then
      some <|
        if found.isSome then .ok (.error (.duplicateField name), c)
        else do
          let (v, c) ← field.format.read depth (← readColon c)
          .ok (.ok (some v, more), c)
    else
      (rest.readInto depth name c more).map fun r =>
        r.map fun (draft, c) => (draft.map fun more => (found, more), c)

/-- Read the members of an object into the draft, up to its end. -/
def readMembers (depth : Nat) (layout : Layout ts) :
    Nat → Bool → Draft ts → Cursor → Except Stop (Except Cause (Draft ts) × Cursor)
  | 0, _, _, c => .error (c.stop .endInObject)
  | fuel + 1, first, draft, c => do
    let (more, c) ← nextKey first c
    if more then
      let (name, c) ← readString c
      match layout.readInto depth name c draft with
      | none => readMembers depth layout fuel false draft (← skipValue (← readColon c))
      | some r =>
        match ← r with
        | (.ok draft, c) => readMembers depth layout fuel false draft c
        | (.error cause, c) => .ok (.error cause, c)
    else .ok (.ok draft, c)

/-- Read the items of an array as the values of the fields, up to the last field. -/
def readItems (depth : Nat) (wanted : String) :
    {ts : List Type} → Layout ts → Nat → Cursor →
      Except Stop (Except Cause (Values ts) × Cursor)
  | _, .nil, _, c => .ok (.ok (), c)
  | _, .cons field rest, taken, c => do
    let (more, c) ← nextItem (taken == 0) c
    if more then
      let (v, c) ← field.format.read depth c
      let (vs, c) ← rest.readItems depth wanted (taken + 1) c
      .ok (vs.map fun vs => (v, vs), c)
    else
      match field.absent with
      | .anywhere v =>
        let (vs, c) ← rest.readItems depth wanted (taken + 1) c
        .ok (vs.map fun vs => (v, vs), c)
      | _ => .ok (.error (.wrongLength taken wanted), c)

end Layout

/-- What was found inside an array or object, after its end has been read.  A cause found inside
is placed where reading came to rest, whether the end was there or not. -/
def settle {α : Type} (close : Cursor → Except (Stop × Cursor) Cursor) :
    Except Cause α × Cursor → Except Stop (α × Cursor)
  | (.ok a, c) => do return (a, ← closed (close c))
  | (.error cause, c) =>
    match close c with
    | .ok c => .error (c.stop cause)
    | .error (_, c) => .error (c.stop cause)

/-- A number of elements in words. -/
def elements (n : Nat) : String :=
  if n = 1 then "1 element" else toString n ++ " elements"

/-- The cause for items left over at the end of an array of which `taken` were wanted. -/
def tooMany (carrier : Carrier) (length taken : Nat) : Cause :=
  match carrier with
  | .whole => .wrongLength length "fewer elements in array"
  | .setAside => .wrongLength length (elements taken ++ " in sequence")

namespace Format

variable {α β : Type} {ts : List Type}

/-- Records of a given name and layout. -/
def record (name : String) (layout : Layout ts) (make : Layout.Values ts → α)
    (parts : α → Layout.Values ts) : Format α where
  encode a := .object (layout.encode (parts a))
  decode carrier
    | .object members => do
      let draft ← layout.fillAll carrier members (Layout.emptyDraft ts)
      return make (← layout.complete draft)
    | .array items => do
      let (values, left) ← layout.decodeItems carrier wantedItems 0 items
      if left.isEmpty then return make values
      else .error (tooMany carrier items.length (items.length - left.length))
    | v => .error (.wrongType v.seen wanted)
  read depth c :=
    let c := c.skipBlanks
    match c.rest, depth with
    | '\x7b' :: _, 0 | '[' :: _, 0 => .error (c.stopBefore .tooDeep)
    | '\x7b' :: rest, depth + 1 => do
      let (draft, c) ←
        layout.readMembers depth (rest.length + 1) true (Layout.emptyDraft ts) ⟨rest, c.offset + 1⟩
      settle closeObject (do return make (← layout.complete (← draft)), c)
    | '[' :: rest, depth + 1 => do
      let (values, c) ← layout.readItems depth wantedItems 0 ⟨rest, c.offset + 1⟩
      settle closeArray (values.map make, c)
    | _, _ => .error (refuse wanted c)
where
  /-- What is asked for. -/
  wanted : String := "struct " ++ name
  /-- What is asked for where an array is too short. -/
  wantedItems : String := "struct " ++ name ++ " with " ++ elements layout.size

/-! ## Tagged records -/

/-- The members read so far of a tagged record: its tag, once it was met, and the others. -/
structure Tagging (α : Type) where
  tag : Option α := none
  others : List (String × Json) := []

/-- The members of a tagged record, up to its end. -/
def readTagging (tag : String) (case_ : Format α) (depth : Nat) :
    Nat → Bool → Tagging α → Cursor → Except Stop (Except Cause (Tagging α) × Cursor)
  | 0, _, _, c => .error (c.stop .endInObject)
  | fuel + 1, first, found, c => do
    let (more, c) ← nextKey first c
    if more then
      let (name, c) ← readString c
      if name = tag then
        if found.tag.isSome then .ok (.error (.duplicateField tag), c)
        else
          let (a, c) ← case_.read depth (← readColon c)
          readTagging tag case_ depth fuel false { found with tag := some a } c
      else
        let (v, c) ← readValue depth (← readColon c)
        readTagging tag case_ depth fuel false
          { found with others := found.others ++ [(name, v)] } c
    else .ok (.ok found, c)

/-- The members of a tagged record that is at hand as a document. -/
def decodeTagging (tag : String) (case_ : Format α) (carrier : Carrier) :
    List (String × Json) → Tagging α → Except Cause (Tagging α)
  | [], found => .ok found
  | (name, v) :: members, found =>
    if name = tag then
      if found.tag.isSome then .error (.duplicateField tag)
      else do
        let a ← case_.decode carrier v
        decodeTagging tag case_ carrier members { found with tag := some a }
    else
      decodeTagging tag case_ carrier members
        { found with others := found.others ++ [(name, v)] }

/-- Records that tell their case by a member of the name `tag`, or by the first item of an array.
The rest of the record is set aside until the case is known, so that its faults have no place. -/
def tagged (name tag : String) (case_ : Format α) (encode : β → Json)
    (body : α → Json → Except Cause β) : Format β where
  encode := encode
  decode carrier
    | .object members => do
      let found ← decodeTagging tag case_ carrier members {}
      let a ← tagOf found
      body a (.object found.others)
    | .array [] => .error (.missingField tag)
    | .array (v :: rest) => do
      let a ← case_.decode carrier v
      body a (.array rest)
    | v => .error (.wrongType v.seen wanted)
  read depth c :=
    let c := c.skipBlanks
    match c.rest, depth with
    | '\x7b' :: _, 0 | '[' :: _, 0 => .error (c.stopBefore .tooDeep)
    | '\x7b' :: rest, depth + 1 => do
      let (found, c) ←
        readTagging tag case_ depth (rest.length + 1) true {} ⟨rest, c.offset + 1⟩
      let ((a, others), c) ←
        settle closeObject (do let found ← found; return (← tagOf found, found.others), c)
      finish a (.object others) c
    | '[' :: rest, depth + 1 => do
      let (more, c) ← nextItem true ⟨rest, c.offset + 1⟩
      if more then
        let (a, c) ← case_.read depth c
        let (items, c) ← readItems (readValue depth) (c.rest.length + 1) false c
        finish a (.array items) (← closed (closeArray c))
      else settle closeArray (.error (.missingField tag), c)
    | _, _ => .error (refuse wanted c)
where
  /-- What is asked for. -/
  wanted : String := "internally tagged enum " ++ name
  /-- The tag, which has to be there. -/
  tagOf (found : Tagging α) : Except Cause α :=
    match found.tag with
    | some a => .ok a
    | none => .error (.missingField tag)
  /-- The value of the rest of the record. -/
  finish (a : α) (rest : Json) (c : Cursor) : Except Stop (β × Cursor) :=
    match body a rest with
    | .ok b => .ok (b, c)
    | .error cause => .error ⟨cause, none⟩

end Format
end Clearance.Json
