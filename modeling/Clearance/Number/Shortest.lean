import Clearance.Number.Double

/-!
# Shortest decimals

The decimal text of a double: the fewest digits that read back as the same number, and of those
the nearest to it, an exact tie going to the even last digit.

The reals that read back as a finite double form an interval around it, which contains its ends
when the significand is even.  A grid of decimals `k * 10 ^ g` is searched at the two points
around the value, from coarse grids to fine ones, and the first point inside the interval is the
answer.

## Main definitions

* `Neighbourhood`: a value and the ends of its interval, in units of a power of two.
* `Double.shortest`: the digits and the power of ten of the answer.
* `Double.text`: the written form, positional from `1e-5` to `1e16`.
-/

namespace Clearance

/-- The reals that round to one double: from `low` over `mid`, the double, to `high`, all three
times `2 ^ unit`. -/
structure Neighbourhood where
  low : Nat
  mid : Nat
  high : Nat
  unit : Int
  closed : Bool

namespace Neighbourhood

/-- The interval of a finite double other than zero.  Below a power of two the neighbours lie
closer, so the lower end does too. -/
def of (x : Double) : Neighbourhood :=
  let m := x.significand
  let narrow : Bool := m == 1 <<< 52 && x.exponentBits > 1
  { low := if narrow then 4 * m - 1 else 4 * m - 2
    mid := 4 * m
    high := 4 * m + 2
    unit := x.scale - 2
    closed := m % 2 == 0 }

/-- How many steps of `2 ^ unit` and how many of `10 ^ g` make one common step: a grid point `k`
stands at `k * a` and an end `e` at `e * b`. -/
def commonSteps (n : Neighbourhood) (g : Int) : Nat × Nat :=
  (tenTo g.toNat <<< (-n.unit).toNat, tenTo (-g).toNat <<< n.unit.toNat)

/-- The grid point `k * 10 ^ g` reads back as the double. -/
def holds (n : Neighbourhood) (g : Int) (k : Nat) : Bool :=
  let (a, b) := n.commonSteps g
  if n.closed then decide (n.low * b ≤ k * a) && decide (k * a ≤ n.high * b)
  else decide (n.low * b < k * a) && decide (k * a < n.high * b)

/-- The nearer of the two grid points around the value that reads back, if one does. -/
def onGrid (n : Neighbourhood) (g : Int) : Option Nat :=
  let (a, b) := n.commonSteps g
  let k := n.mid * b / a
  match n.holds g k, n.holds g (k + 1) with
  | true, false => some k
  | false, true => some (k + 1)
  | false, false => none
  | true, true =>
    let twice := 2 * (n.mid * b)
    let middle := (2 * k + 1) * a
    if twice < middle then some k
    else if middle < twice then some (k + 1)
    else if k % 2 = 0 then some k else some (k + 1)

/-- The first hit on the grids `10 ^ g`, `10 ^ (g - 1)`, …. -/
def search (n : Neighbourhood) : Nat → Int → Nat × Int
  | 0, g => (0, g)
  | fuel + 1, g =>
    match n.onGrid g with
    | some k => (k, g)
    | none => n.search fuel (g - 1)

end Neighbourhood

namespace Double

/-- The digits and the power of ten of the shortest decimal of a finite number other than zero.
The search starts on a grid no finer than the number itself, and seventeen digits always suffice. -/
def shortest (x : Double) : Nat × Int :=
  let top := leadingBit x.significand 1 + x.scale
  (Neighbourhood.of x).search 22 (top * 30103 / 100000 + 1)

/-- The digits of a decimal with the point after the first `point` of them. -/
def positional (digits : List Char) (point : Int) : List Char :=
  if point ≤ 0 then ['0', '.'] ++ List.replicate (-point).toNat '0' ++ digits
  else if digits.length ≤ point.toNat then
    digits ++ List.replicate (point.toNat - digits.length) '0' ++ ['.', '0']
  else digits.take point.toNat ++ ['.'] ++ digits.drop point.toNat

/-- One digit before the point and a signed power of ten after the letter `e`. -/
def scientific (digits : List Char) (exponent : Int) : List Char :=
  let mantissa :=
    match digits with
    | first :: second :: more => first :: '.' :: second :: more
    | short => short
  mantissa ++ ['e', if exponent < 0 then '-' else '+'] ++ Nat.toDigits 10 exponent.natAbs

/-- The written form of a number's size. -/
def magnitudeText (x : Double) : List Char :=
  if x.isZero then ['0', '.', '0']
  else
    let (k, g) := x.shortest
    let digits := Nat.toDigits 10 k
    let point := digits.length + g
    if -5 < point ∧ point ≤ 16 then positional digits point else scientific digits (point - 1)

/-- The written form of a finite number. -/
def textChars (x : Double) : List Char :=
  (if x.isNegative then ['-'] else []) ++ x.magnitudeText

/-- The written form of a finite number without a power of ten, however long that is. -/
def plainChars (x : Double) : List Char :=
  let size :=
    if x.isZero then ['0', '.', '0']
    else
      let (k, g) := x.shortest
      let digits := Nat.toDigits 10 k
      positional digits (digits.length + g)
  (if x.isNegative then ['-'] else []) ++ size

/-- The written form of a finite number without a power of ten. -/
def plainText (x : Double) : String := String.ofList x.plainChars

/-- The written form of a finite number. -/
def text (x : Double) : String := String.ofList x.textChars

end Double
end Clearance
