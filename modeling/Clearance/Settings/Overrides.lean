import Clearance.Host.Basic
import Clearance.Settings.Basic
import Clearance.Text.Digits
import Clearance.Text.Segments

/-!
# Overrides

Three variables may take the place of settings.  A variable that is blank, or that cannot be
understood, leaves its setting alone.

## Main definitions

* `Overrides`, `Overrides.read`: the values that were given.
* `Overrides.onto`: settings with these values in their places.
-/

namespace Clearance

/-- Values that take the place of settings. -/
structure Overrides where
  capacity : Option UInt64 := none
  cacheableTypes : Option (List String) := none
  submitNano : Option Bool := none
  deriving DecidableEq, Repr

namespace Overrides

/-- A count of workers: a number from 1 to the largest of 64 bits, with a plus sign or without. -/
def capacity? (s : String) : Option UInt64 := do
  let cs := Text.trimChars s.toList
  let n ← Text.digits? (if cs.head? = some '+' then cs.drop 1 else cs)
  if 0 < n ∧ n < UInt64.size then some (UInt64.ofNat n) else none

/-- The names between commas, without the blank ones. -/
def namesOf (s : String) : List String :=
  ((Text.splitOn ',' s.toList).map Text.trimChars |>.filter (!·.isEmpty)).map String.ofList

/-- A choice between the compact container and the standard one, in any case. -/
def nano? (s : String) : Option Bool :=
  let word := (Text.trim s).map Char.toLower
  if word ∈ ["1", "true", "yes", "on", "nano", "nanotdf"] then some true
  else if word ∈ ["0", "false", "no", "off", "tdf3"] then some false
  else none

/-- The values that the variables of a host give. -/
def read {m : Type → Type} [Monad m] (host : Host m) : m Overrides := do
  let capacity ← host.given "COP_POOL_CAPACITY"
  let cacheableTypes ← host.given "COP_CACHEABLE_SOURCE_TYPES"
  let submitNano ← host.given "COP_FORM_SUBMIT_NANOTDF"
  return ⟨capacity.bind capacity?, cacheableTypes.map namesOf, submitNano.bind nano?⟩

/-- Settings with the given values in their places. -/
def onto (o : Overrides) (s : Settings) : Settings where
  pool := { s.pool with capacity := o.capacity.getD s.pool.capacity }
  cache := { s.cache with cacheableTypes := o.cacheableTypes.getD s.cache.cacheableTypes }
  client := { s.client with submitNano := o.submitNano.getD s.client.submitNano }

end Overrides
end Clearance
