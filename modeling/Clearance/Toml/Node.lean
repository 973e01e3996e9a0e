import Clearance.Toml.Scalar

/-!
# Trees of a settings file

A settings file is a table of keys and values, and its text may come to one table in several
places.  Which places may still add to a table depends on how it came to be, so that is kept with
it until the end.

## Main definitions

* `Node`, `TableKind`: values, and how a table came to be.
* `Table.within`: change a table that is given by a path of keys.
* `Table.assign`, `Table.open_`, `Table.append`: the three ways in which a text adds to a table.
-/

namespace Clearance.Toml

/-- How a table came to be: on the path to a header, on the path of a dotted key, under a header of
its own, or between braces. -/
inductive TableKind where
  | implied
  | dotted
  | headed
  | inline_
  deriving DecidableEq, Repr

/-- A value.  An array either was written between brackets or is one of tables, each under a
header.  The members of a table are in order of their keys. -/
inductive Node where
  | leaf (value : Scalar)
  | array (ofTables : Bool) (items : List Node)
  | table (kind : TableKind) (members : List (String × Node))
  deriving Repr

/-- A table in the making. -/
structure Table where
  kind : TableKind
  members : List (String × Node) := []

namespace Table

/-- The value of a key. -/
def find? (t : Table) (k : String) : Option Node := Keyed.find? k t.members

/-- Set the value of a key. -/
def set (t : Table) (k : String) (v : Node) : Table :=
  { t with members := Keyed.insert k v t.members }

/-- The value of a table. -/
def toNode (t : Table) : Node := .table t.kind t.members

/-- Change the table at a path of keys.  A table that is missing is made; of an array of tables the
last is meant.  No path leads into a table between braces, and no dotted key into one that has a
header. -/
def within (dotted : Bool) : List String → (Table → Option Table) → Table → Option Table
  | [], change, t => change t
  | k :: path, change, t =>
    match t.find? k with
    | none => do
      let child ← within dotted path change { kind := if dotted then .dotted else .implied }
      return t.set k child.toNode
    | some (.table kind members) =>
      if kind = .inline_ ∨ (dotted ∧ kind = .headed) then none
      else do
        let child ← within dotted path change { kind, members }
        return t.set k child.toNode
    | some (.array true items) =>
      match items.getLast? with
      | some (.table kind members) => do
        let child ← within dotted path change { kind, members }
        return t.set k (.array true (items.dropLast ++ [child.toNode]))
      | _ => none
    | some _ => none

/-- Give a key its value, which it may have only once.  A dotted key may add to a table that dotted
keys have made, and to no other. -/
def assign (t : Table) (path : List String) (k : String) (v : Node) : Option Table :=
  t.within true path
    (fun t =>
      if decide (t.kind = .dotted) ≠ !path.isEmpty then none
      else
        match t.find? k with
        | some _ => none
        | none => some (t.set k v))

/-- Open the table of a header, once, keeping what was implied of it. -/
def open_ (t : Table) (path : List String) (k : String) : Option Table :=
  t.within false path fun t =>
    match t.find? k with
    | none => some (t.set k (.table .headed []))
    | some (.table .implied members) => some (t.set k (.table .headed members))
    | some _ => none

/-- Add a table to an array of tables. -/
def append (t : Table) (path : List String) (k : String) : Option Table :=
  t.within false path fun t =>
    match t.find? k with
    | none => some (t.set k (.array true [.table .headed []]))
    | some (.array true items) => some (t.set k (.array true (items ++ [.table .headed []])))
    | some _ => none

end Table

end Clearance.Toml
