import Clearance.Json.Scan

/-!
# Dates and times

A date, a time of day or both, and then perhaps an offset from universal time.  The seconds may be
left out, and more decimals may be written than nanoseconds can tell; the written form that `text`
gives has all seconds and no needless decimals.

## Main definitions

* `Date`, `Time`, `Offset`, `Moment`: dates and times.
* `moment?`: the moment that a text writes.
* `Moment.text`, `Moment.toJson`: its written form, and its document.
-/

namespace Clearance.Toml

open Json (isDigit hexValue?)

/-! ## Parts -/

/-- A date. -/
structure Date where
  year : Nat
  month : Nat
  day : Nat
  deriving DecidableEq, Repr

/-- A time of day, with a fraction of a second in nanoseconds. -/
structure Time where
  hour : Nat
  minute : Nat
  second : Nat := 0
  nanosecond : Nat := 0
  deriving DecidableEq, Repr

/-- How far a time is from the universal one. -/
inductive Offset where
  | universal
  | minutes (west : Bool) (n : Nat)
  deriving DecidableEq, Repr

/-- A date, a time, or both. -/
structure Moment where
  date : Option Date
  time : Option Time
  offset : Option Offset
  deriving DecidableEq, Repr

/-! ## Reading -/

/-- The number that digits write in a base. -/
def numberIn (base : Nat) (digits : List Char) : Nat :=
  digits.foldl (fun n c => n * base + (hexValue? c).getD 0) 0

/-- A number of a fixed count of digits, and what follows. -/
def fixed? (count : Nat) (cs : List Char) : Option (Nat × List Char) :=
  let digits := cs.take count
  if digits.length = count ∧ digits.all isDigit then some (numberIn 10 digits, cs.drop count)
  else none

/-- What follows an expected character. -/
def after? (c : Char) : List Char → Option (List Char)
  | x :: rest => if x = c then some rest else none
  | [] => none

/-- The number of days in a month. -/
def daysIn (year month : Nat) : Nat :=
  if month = 2 then
    if year % 4 = 0 ∧ (year % 100 ≠ 0 ∨ year % 400 = 0) then 29 else 28
  else if month = 4 ∨ month = 6 ∨ month = 9 ∨ month = 11 then 30
  else 31

/-- A date, and what follows. -/
def date? (cs : List Char) : Option (Date × List Char) := do
  let (year, cs) ← fixed? 4 cs
  let (month, cs) ← fixed? 2 (← after? '-' cs)
  let (day, cs) ← fixed? 2 (← after? '-' cs)
  if 1 ≤ month ∧ month ≤ 12 ∧ 1 ≤ day ∧ day ≤ daysIn year month then some (⟨year, month, day⟩, cs)
  else none

/-- The nanoseconds that decimals write; what comes after the ninth is dropped. -/
def nanoseconds (digits : List Char) : Nat :=
  let nine := (digits ++ List.replicate 9 '0').take 9
  numberIn 10 nine

/-- The seconds and nanoseconds of a time, which may be left out, and what follows. -/
def seconds? (cs : List Char) : Option ((Nat × Nat) × List Char) :=
  match cs with
  | ':' :: rest => do
    let (second, cs) ← fixed? 2 rest
    if 60 < second then none
    else
      match cs with
      | '.' :: rest =>
        let digits := rest.takeWhile isDigit
        if digits.isEmpty then none
        else some ((second, nanoseconds digits), rest.drop digits.length)
      | cs => some ((second, 0), cs)
  | cs => some ((0, 0), cs)

/-- A time of day, and what follows. -/
def time? (cs : List Char) : Option (Time × List Char) := do
  let (hour, cs) ← fixed? 2 cs
  let (minute, cs) ← fixed? 2 (← after? ':' cs)
  let ((second, nanosecond), cs) ← seconds? cs
  if hour ≤ 23 ∧ minute ≤ 59 then some (⟨hour, minute, second, nanosecond⟩, cs) else none

/-- An offset that takes up the whole text, or none at its end. -/
def offset? (cs : List Char) : Option (Option Offset) :=
  match cs with
  | [] => some none
  | ['Z'] | ['z'] => some (some .universal)
  | c :: rest =>
    if c = '+' ∨ c = '-' then do
      let (hours, cs) ← fixed? 2 rest
      let (minutes, cs) ← fixed? 2 (← after? ':' cs)
      if cs.isEmpty ∧ hours ≤ 23 ∧ minutes ≤ 59 then
        some (some (.minutes (c = '-') (60 * hours + minutes)))
      else none
    else none

/-- A date, a time or both, as the whole of a text. -/
def moment? (cs : List Char) : Option Moment :=
  match date? cs with
  | some (d, []) => some ⟨some d, none, none⟩
  | some (d, c :: rest) =>
    if c = 'T' ∨ c = 't' ∨ c = ' ' then do
      let (t, cs) ← time? rest
      return ⟨some d, some t, ← offset? cs⟩
    else none
  | none =>
    match time? cs with
    | some (t, []) => some ⟨none, some t, none⟩
    | _ => none

/-! ## Written form -/

/-- A number with zeros in front of it. -/
def padded (width n : Nat) : String :=
  let digits := Nat.toDigits 10 n
  String.ofList (List.replicate (width - digits.length) '0' ++ digits)

/-- The fraction of a second behind its point, without zeros at its end; nothing if there is
none. -/
def fractionText (n : Nat) : String :=
  if n = 0 then ""
  else "." ++ String.ofList ((padded 9 n).toList.reverse.dropWhile (· = '0')).reverse

/-- The written form of a date. -/
def Date.text (d : Date) : String :=
  padded 4 d.year ++ "-" ++ padded 2 d.month ++ "-" ++ padded 2 d.day

/-- The written form of a time. -/
def Time.text (t : Time) : String :=
  padded 2 t.hour ++ ":" ++ padded 2 t.minute ++ ":" ++ padded 2 t.second ++
    fractionText t.nanosecond

/-- The written form of an offset. -/
def Offset.text : Offset → String
  | .universal => "Z"
  | .minutes west n =>
    (if west && n != 0 then "-" else "+") ++ padded 2 (n / 60) ++ ":" ++ padded 2 (n % 60)

/-- The written form of a moment. -/
def Moment.text (m : Moment) : String :=
  ((m.date.map Date.text).getD "") ++ (if m.date.isSome && m.time.isSome then "T" else "") ++
    ((m.time.map Time.text).getD "") ++ ((m.offset.map Offset.text).getD "")

/-- The key that a moment has in documents, which have no moments of their own. -/
def Moment.key : String := "$__toml_private_datetime"

/-- The document of a moment: an object under a key of its own. -/
def Moment.toJson (m : Moment) : Json := .object [(Moment.key, .string m.text)]

end Clearance.Toml
