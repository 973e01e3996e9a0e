import Clearance.Toml.Node

/-!
# Documents of settings files

The JSON document of a tree, as it is checked against a schema.  Documents have no moments, so a
moment becomes an object under a key of its own.  That key is taken at its word wherever it comes
first in a table: the table then stands for a moment, whatever else it holds, and what it holds is
not looked at.

## Main definitions

* `Node.document?`: the document of a tree.
-/

namespace Clearance.Toml

/-- A whole number of 64 bits. -/
def isWord (n : Int) : Bool := Int64.minValue.toInt ≤ n ∧ n ≤ Int64.maxValue.toInt

/-- The document of a value without parts.  Whole numbers have 64 bits, and a number that is not
finite becomes null. -/
def Scalar.document? : Scalar → Option Json
  | .text s => some (.string s)
  | .flag b => some (.bool b)
  | .whole n => if isWord n then some (.int n) else none
  | .real x => some (if x.isFinite then .real x else .null)
  | .tooLarge => none
  | .moment m => some m.toJson

/-- The document of a table that starts with the key of a moment. -/
def momentDocument? : Node → Option Json
  | .leaf (.text s) => (moment? s.toList).map Moment.toJson
  | _ => none

mutual
/-- The document of a tree. -/
def Node.document? : Node → Option Json
  | .leaf v => v.document?
  | .array _ items => (itemDocuments? items).map .array
  | .table _ members =>
    match members with
    | [] => some (.object [])
    | (k, v) :: rest =>
      if k = Moment.key then momentDocument? v
      else do return .object ((k, ← v.document?) :: (← memberDocuments? rest))

/-- The documents of the items of an array. -/
def itemDocuments? : List Node → Option (List Json)
  | [] => some []
  | v :: rest => do return (← v.document?) :: (← itemDocuments? rest)

/-- The documents of the members of a table. -/
def memberDocuments? : List (String × Node) → Option (List (String × Json))
  | [] => some []
  | (k, v) :: rest => do return (k, ← v.document?) :: (← memberDocuments? rest)
end

end Clearance.Toml
