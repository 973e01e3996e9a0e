import Clearance.Number.Power

/-!
# Spans of time

A span is a number of nanoseconds.  It is written in the largest unit that makes it at least one,
with as many decimals as it has.
-/

namespace Clearance

/-- A span of time. -/
structure Duration where
  nanoseconds : Nat
  deriving DecidableEq, Repr

namespace Duration

/-- A span of microseconds. -/
def ofMicroseconds (n : Nat) : Duration := ⟨n * 1000⟩

/-- The whole milliseconds that cover a span. -/
def milliseconds (d : Duration) : Nat := (d.nanoseconds + 999999) / 1000000

/-- The decimals of a part of `10 ^ places`, without trailing zeros. -/
def decimals (places part : Nat) : List Char :=
  let digits := Nat.toDigits 10 part
  let padded := List.replicate (places - digits.length) '0' ++ digits
  (padded.reverse.dropWhile (· = '0')).reverse

/-- A count of units of `10 ^ places` nanoseconds. -/
def inUnit (d : Duration) (places : Nat) (name : String) : String :=
  let part := d.nanoseconds % tenTo places
  toString (d.nanoseconds / tenTo places) ++
    (if part = 0 then "" else "." ++ String.ofList (decimals places part)) ++ name

/-- The written form of a span. -/
def text (d : Duration) : String :=
  if 1000000000 ≤ d.nanoseconds then d.inUnit 9 "s"
  else if 1000000 ≤ d.nanoseconds then d.inUnit 6 "ms"
  else if 1000 ≤ d.nanoseconds then d.inUnit 3 "µs"
  else d.inUnit 0 "ns"

end Duration
end Clearance
