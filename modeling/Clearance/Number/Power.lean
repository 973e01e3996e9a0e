/-!
# Powers of ten

The units of decimal notation.
-/

namespace Clearance

/-- A power of ten. -/
def tenTo (k : Nat) : Nat := Nat.pow 10 k

@[simp] theorem tenTo_zero : tenTo 0 = 1 := rfl

@[simp] theorem tenTo_succ (k : Nat) : tenTo (k + 1) = tenTo k * 10 := rfl

end Clearance
