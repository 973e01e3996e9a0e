import Clearance.Number.Power

/-!
# Binary numbers of double precision

A `Double` is kept as its 64 bits: a sign, eleven bits of exponent and fifty-two of fraction.  Its
operations go through exact arithmetic on natural numbers: a finite value is `significand * 2 ^
scale`, and `ofRatio` rounds any ratio to the nearest double, a tie going to the even significand.
Every operation here is one exact computation followed by one such rounding.

## Main definitions

* `Double.ofRatio`: the double nearest to a ratio.
* `Double.mul`, `Double.div`: product and quotient, rounded once.
* `Double.powerOfTen`: the double nearest to a power of ten.
-/

namespace Clearance

/-- A number of double precision, as its bits. -/
structure Double where
  bits : UInt64
  deriving DecidableEq, Repr, Inhabited

namespace Double

/-- The sign bit. -/
def isNegative (x : Double) : Bool := x.bits >>> 63 == 1

/-- The eleven bits of exponent. -/
def exponentBits (x : Double) : Nat := (x.bits.toNat >>> 52) % (1 <<< 11)

/-- The fifty-two bits of fraction. -/
def fractionBits (x : Double) : Nat := x.bits.toNat % (1 <<< 52)

/-- Neither infinite nor undefined. -/
def isFinite (x : Double) : Bool := x.exponentBits != 2047

/-- One of the two infinities. -/
def isInfinite (x : Double) : Bool := x.exponentBits == 2047 && x.fractionBits == 0

/-- One of the two zeros. -/
def isZero (x : Double) : Bool := x.exponentBits == 0 && x.fractionBits == 0

/-- The natural number `m` with `|x| = m * 2 ^ x.scale`. -/
def significand (x : Double) : Nat :=
  if x.exponentBits = 0 then x.fractionBits else (1 <<< 52) + x.fractionBits

/-- The weight of the last bit of the significand, as a power of two. -/
def scale (x : Double) : Int :=
  if x.exponentBits = 0 then -1074 else (x.exponentBits : Int) - 1075

/-- The bits of a number from its sign and the rest of them. -/
def ofMagnitude (negative : Bool) (magnitude : Nat) : Double :=
  ⟨UInt64.ofNat ((if negative then 1 <<< 63 else 0) + magnitude)⟩

/-- Infinity of either sign. -/
def infinity (negative : Bool) : Double := ofMagnitude negative (2047 <<< 52)

/-- A value that is no number. -/
def undefined : Double := ofMagnitude false ((2047 <<< 52) + (1 <<< 51))

/-- The natural number nearest to `num / den`, the even one of two that are equally near. -/
def roundRatio (num den : Nat) : Nat :=
  let q := num / den
  let r := num % den
  if 2 * r < den then q
  else if den < 2 * r then q + 1
  else if q % 2 = 0 then q else q + 1

/-- The position of the leading bit of `num / den`: `2 ^ k ≤ num / den < 2 ^ (k + 1)`. -/
def leadingBit (num den : Nat) : Int :=
  let k : Int := (num.log2 : Int) - (den.log2 : Int)
  let reaches : Bool :=
    if 0 ≤ k then decide (den <<< k.toNat ≤ num) else decide (den ≤ num <<< (-k).toNat)
  if reaches then k else k - 1

/-- The double nearest to `num / den`; beyond the largest finite one it is infinite. -/
def ofRatio (negative : Bool) (num den : Nat) : Double :=
  if num = 0 then ofMagnitude negative 0
  else
    let q : Int := max (leadingBit num den - 52) (-1074)
    let m :=
      if 0 ≤ q then roundRatio num (den <<< q.toNat)
      else roundRatio (num <<< (-q).toNat) den
    let magnitude := if m < 1 <<< 52 then m else ((q + 1075).toNat <<< 52) + (m - (1 <<< 52))
    if 2047 <<< 52 ≤ magnitude then infinity negative else ofMagnitude negative magnitude

/-- The double nearest to a natural number. -/
def ofNat (n : Nat) : Double := ofRatio false n 1

/-- The double nearest to `10 ^ k`. -/
def powerOfTen (k : Nat) : Double := ofNat (tenTo k)

/-- The double nearest to `digits * 10 ^ exponent`.  Beyond the range of doubles on either side the
answer is known from the number of digits. -/
def ofDecimal (negative : Bool) (digits : Nat) (exponent : Int) : Double :=
  let top := (Nat.toDigits 10 digits).length + exponent
  if digits = 0 ∨ top < -330 then ofMagnitude negative 0
  else if 320 < top then infinity negative
  else if 0 ≤ exponent then ofRatio negative (digits * tenTo exponent.toNat) 1
  else ofRatio negative digits (tenTo (-exponent).toNat)

/-- `x` with its sign turned. -/
def neg (x : Double) : Double := ⟨x.bits ^^^ ((1 : UInt64) <<< 63)⟩

/-- The product of two finite numbers. -/
def mul (x y : Double) : Double :=
  let negative := x.isNegative != y.isNegative
  let e := x.scale + y.scale
  let m := x.significand * y.significand
  if 0 ≤ e then ofRatio negative (m <<< e.toNat) 1 else ofRatio negative m (1 <<< (-e).toNat)

/-- The quotient of two finite numbers of which the second is not zero. -/
def div (x y : Double) : Double :=
  let negative := x.isNegative != y.isNegative
  let e := x.scale - y.scale
  if 0 ≤ e then ofRatio negative (x.significand <<< e.toNat) y.significand
  else ofRatio negative x.significand (y.significand <<< (-e).toNat)

/-- The natural number or negative whole number that a finite `x` is equal to. -/
def toInt? (x : Double) : Option Int :=
  if !x.isFinite then none
  else
    let signed (n : Nat) : Int := if x.isNegative then -(n : Int) else n
    if 0 ≤ x.scale then some (signed (x.significand <<< x.scale.toNat))
    else
      let unit := 1 <<< (-x.scale).toNat
      if x.significand % unit = 0 then some (signed (x.significand / unit)) else none

/-- `x` is less than the natural number `n`. -/
def isBelow (x : Double) (n : Nat) : Bool :=
  if !x.isFinite then x.isInfinite && x.isNegative
  else if x.isNegative then !(x.isZero && n == 0)
  else if 0 ≤ x.scale then decide (x.significand <<< x.scale.toNat < n)
  else decide (x.significand < n <<< (-x.scale).toNat)

end Double
end Clearance
