import Clearance.Json.Basic
import Clearance.Text.Blank

/-!
# The object cache

The static fields of objects whose source types are known not to change.  An insert of another
type is refused and leaves the cache as it was.

## Main definitions

* `Cache`, `Cache.Stats`: the entries with the counts of what was asked of them.
* `Cache.get`, `Cache.insert`, `Cache.clear`: the operations.
-/

namespace Clearance

/-- The counts of a cache: of what was asked of it in 64 bits, and of what it has. -/
structure Cache.Stats where
  hits : UInt64
  misses : UInt64
  inserts : UInt64
  entries : Nat
  deriving DecidableEq, Repr

/-- Static fields by object, for the objects of some source types. -/
structure Cache where
  cacheable : List String
  entries : List (String × Fields) := []
  hits : UInt64 := 0
  misses : UInt64 := 0
  inserts : UInt64 := 0

namespace Cache

/-- An empty cache for the objects of some source types; blank ones do not count. -/
def ofTypes (types : List String) : Cache :=
  { cacheable := types.filter fun t => !Text.isBlankText t }

/-- The objects of a source type are kept. -/
def isCacheable (c : Cache) (sourceType : String) : Bool := sourceType ∈ c.cacheable

/-- The fields of an object. -/
def find? (c : Cache) (id : String) : Option Fields := Keyed.find? id c.entries

/-- Ask for the fields of an object, which is counted. -/
def get (c : Cache) (id : String) : Option Fields × Cache :=
  match c.find? id with
  | some f => (some f, { c with hits := c.hits + 1 })
  | none => (none, { c with misses := c.misses + 1 })

/-- Keep the fields of an object, if its source type is one of those that are kept. -/
def insert (c : Cache) (id sourceType : String) (fields : Fields) : Bool × Cache :=
  if c.isCacheable sourceType then
    (true, { c with entries := Keyed.insert id fields c.entries, inserts := c.inserts + 1 })
  else (false, c)

/-- Drop all entries.  The counts stay. -/
def clear (c : Cache) : Cache := { c with entries := [] }

/-- The number of objects. -/
def size (c : Cache) : Nat := c.entries.length

/-- The counts. -/
def stats (c : Cache) : Stats := ⟨c.hits, c.misses, c.inserts, c.size⟩

/-- The document of the counts. -/
def Stats.toJson (s : Stats) : Json :=
  .object
    [("hits", .ofNat s.hits.toNat), ("misses", .ofNat s.misses.toNat),
      ("inserts", .ofNat s.inserts.toNat), ("entries", .ofNat s.entries)]

end Cache
end Clearance
