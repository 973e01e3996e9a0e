/-!
# Digits

Natural numbers in decimal digits, as a person types them: at least one digit, and nothing but
ASCII digits.
-/

namespace Clearance.Text

/-- The number that decimal digits write. -/
def digits? (cs : List Char) : Option Nat :=
  if cs.isEmpty ∨ !cs.all Char.isDigit then none
  else some (cs.foldl (fun n c => 10 * n + (c.toNat - '0'.toNat)) 0)

end Clearance.Text
