import Clearance.Json.Reader
import Clearance.Json.Printer

/-!
# Forms of documents

A `Format α` says which documents stand for the values of a type: how a value is written, how one
is taken from a document, and how one is read from a text.  Reading from a text stops at the first
character that does not fit, so its faults carry a place, and they are found in the order of the
text.

## Main definitions

* `Format`: a form of documents.
* `Format.scalar` and its instances `text`, `flag`, `natural`; `Format.any`, `Format.fields`.
* `Format.option`, `Format.list`: documents that may be null, and arrays.
* `Format.names`: enumerations by name.
* `Format.either`: the first of two forms that fits.
* `Format.ofText`, `Format.ofJson`: whole texts and whole documents.
-/

namespace Clearance.Json

/-- What is seen in a document where something else was expected. -/
def seen : Json → Seen
  | .null => .null
  | .bool b => .bool b
  | .int n => .int n
  | .real x => .real x
  | .string s => .string s
  | .array _ => .array
  | .object _ => .object

/-- How a document came to hand: as a whole, or set aside while something else was read.  They
differ in what is said about an array with too many items. -/
inductive Carrier where
  | whole
  | setAside
  deriving DecidableEq, Repr

/-- A form of documents that stand for the values of a type. -/
structure Format (α : Type) where
  /-- The document of a value. -/
  encode : α → Json
  /-- The value of a document. -/
  decode : Carrier → Json → Except Cause α
  /-- The value of the text at a place, nested no deeper than the number says. -/
  read : Nat → Cursor → Except Stop (α × Cursor)

/-- Why the value at a place is not of the kind that was asked for.  A value without parts is
read first, so that its own faults come before. -/
def refuse (wanted : String) (c : Cursor) : Stop :=
  match readPlain c with
  | some (.ok (v, after)) => after.stop (.wrongType v.seen wanted)
  | some (.error stop) => stop
  | none => c.stop (.wrongType (if c.rest.head? = some '[' then .array else .object) wanted)

namespace Format

variable {α β : Type}

/-- The value that a whole document stands for. -/
def ofJson (f : Format α) (v : Json) : Except Fault α :=
  match f.decode .whole v with
  | .ok a => .ok a
  | .error cause => .error ⟨cause, none⟩

/-- The value that a whole text stands for. -/
def ofText (f : Format α) (text : String) : Except Fault α :=
  readText (f.read maxDepth) text.toList

/-- The compact text of a value. -/
def toText (f : Format α) (a : α) : String := (f.encode a).compact

/-- The same documents for the values of another type. -/
def map (f : Format α) (make : α → β) (back : β → α) : Format β where
  encode b := f.encode (back b)
  decode carrier v := (f.decode carrier v).map make
  read depth c := (f.read depth c).map fun (a, c) => (make a, c)

/-! ## Values without parts -/

/-- A form of documents without parts, from the choice of a value. -/
def scalar (wanted : String) (encode : α → Json) (pick : Json → Except Cause α) : Format α where
  encode := encode
  decode _ v := pick v
  read _ c :=
    let c := c.skipBlanks
    match readPlain c with
    | some (.ok (v, after)) =>
      match pick v with
      | .ok a => .ok (a, after)
      | .error cause => .error (after.stop cause)
    | _ => .error (refuse wanted c)

/-- Strings, where `wanted` says what they are for. -/
def textFor (wanted : String) : Format String :=
  scalar wanted .string fun
    | .string s => .ok s
    | v => .error (.wrongType v.seen wanted)

/-- Strings. -/
def text : Format String := textFor "a string"

/-- The two truth values. -/
def flag : Format Bool :=
  scalar "a boolean" .bool fun
    | .bool b => .ok b
    | v => .error (.wrongType v.seen "a boolean")

/-- Null alone. -/
def unit : Format Unit :=
  scalar "unit" (fun _ => .null) fun
    | .null => .ok ()
    | v => .error (.wrongType v.seen "unit")

/-- Natural numbers up to a limit. -/
def natural (wanted : String) (limit : Nat) : Format Nat :=
  scalar wanted (fun n => .int n) fun
    | .int n =>
      if 0 ≤ n ∧ n ≤ limit then .ok n.toNat else .error (.wrongValue (.int n) wanted)
    | v => .error (.wrongType v.seen wanted)

/-- Numbers of eight bits. -/
def byte : Format UInt8 := (natural "u8" 255).map UInt8.ofNat UInt8.toNat

/-- Numbers of sixty-four bits. -/
def word : Format UInt64 := (natural "usize" (UInt64.size - 1)).map UInt64.ofNat UInt64.toNat

/-! ## Documents as they are -/

/-- Any document. -/
def any : Format Json where
  encode := id
  decode _ v := .ok v
  read depth c := do
    let (v, c) ← readValue depth c
    .ok (v.canonical, c)

/-- Any object. -/
def fields : Format Fields where
  encode := Fields.toJson
  decode _ v :=
    match v.fields? with
    | some f => .ok f
    | none => .error (.wrongType v.seen "a map")
  read depth c := do
    let c := c.skipBlanks
    if c.rest.head? = some '\x7b' then
      let (v, after) ← readValue depth c
      .ok ((v.canonical.fields?).getD .empty, after)
    else .error (refuse "a map" c)

/-! ## Documents made of others -/

/-- Documents that may be null. -/
def option (f : Format α) : Format (Option α) where
  encode
    | none => .null
    | some a => f.encode a
  decode carrier
    | .null => .ok none
    | v => (f.decode carrier v).map some
  read depth c :=
    let c := c.skipBlanks
    match c.rest with
    | 'n' :: rest => do return (none, ← readWord ['u', 'l', 'l'] ⟨rest, c.offset + 1⟩)
    | _ => (f.read depth c).map fun (a, c) => (some a, c)

/-- Arrays of documents of one form. -/
def list (f : Format α) : Format (List α) where
  encode l := .array (l.map f.encode)
  decode carrier
    | .array items => items.mapM (f.decode carrier)
    | v => .error (.wrongType v.seen "a sequence")
  read depth c :=
    let c := c.skipBlanks
    match c.rest, depth with
    | '[' :: _, 0 => .error (c.stopBefore .tooDeep)
    | '[' :: rest, depth + 1 => do
      let (items, c) ← readItems (f.read depth) (rest.length + 1) true ⟨rest, c.offset + 1⟩
      return (items, ← closed (closeArray c))
    | _, _ => .error (refuse "a sequence" c)

/-! ## Enumerations -/

/-- The value of a name in an enumeration. -/
def nameIn (cases : List (String × α)) (s : String) : Except Cause α :=
  match cases.lookup s with
  | some a => .ok a
  | none => .error (.unknownVariant s (cases.map (·.1)))

/-- The name of a case, as a string. -/
def caseName (cases : List (String × α)) (name : α → String) : Format α :=
  scalar "variant identifier" (fun a => .string (name a)) fun
    | .string s => nameIn cases s
    | v => .error (.wrongType v.seen "variant identifier")

/-- The cases of an enumeration by name: a string, or an object whose one key is the name and
whose value is null. -/
def names (cases : List (String × α)) (name : α → String) : Format α where
  encode a := .string (name a)
  decode carrier
    | .string s => nameIn cases s
    | .object [(k, v)] => do
      let a ← nameIn cases k
      let () ← unit.decode carrier v
      return a
    | .object _ => .error (.wrongValue .object "map with a single key")
    | v => .error (.wrongType v.seen "string or map")
  read depth c :=
    let c := c.skipBlanks
    match c.rest, depth with
    | '"' :: _, _ => (caseName cases name).read depth c
    | '\x7b' :: _, 0 => .error (c.stopBefore .tooDeep)
    | '\x7b' :: rest, depth + 1 => do
      let c ← caseKey (Cursor.skipBlanks ⟨rest, c.offset + 1⟩)
      let (a, c) ← (caseName cases name).read depth c
      let c ← readColon c
      let ((), c) ← unit.read depth c
      let c := c.skipBlanks
      match c.rest with
      | '\x7d' :: rest => .ok (a, ⟨rest, c.offset + 1⟩)
      | _ => .error (c.stop (if c.rest.isEmpty then .endInObject else .expectedValue))
    | _, _ => .error (c.stopOrEnd .endInValue .expectedValue)
where
  /-- The place of the key of a case, where its opening quote has to be. -/
  caseKey (c : Cursor) : Except Stop Cursor :=
    match c.rest with
    | '"' :: _ => .ok c
    | '\x7d' :: _ => .error (c.stopBefore .expectedValue)
    | _ => .error (c.stopOrEnd .endInObject .keyNotString)

/-! ## Alternatives -/

/-- The first of two forms that a document fits.  The document is read as a whole before either is
tried, so that a misfit has no place. -/
def either (name : String) (f : Format α) (g : Format β) : Format (α ⊕ β) where
  encode
    | .inl a => f.encode a
    | .inr b => g.encode b
  decode _ v := choose v
  read depth c := do
    let (v, c) ← readValue depth c
    match choose v with
    | .ok r => .ok (r, c)
    | .error cause => .error ⟨cause, none⟩
where
  /-- The first form that fits. -/
  choose (v : Json) : Except Cause (α ⊕ β) :=
    match f.decode .setAside v with
    | .ok a => .ok (.inl a)
    | .error _ =>
      match g.decode .setAside v with
      | .ok b => .ok (.inr b)
      | .error _ => .error (.noVariant name)

end Format
end Clearance.Json
