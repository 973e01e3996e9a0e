import Clearance.Json.Basic
import Clearance.Json.Cursor

/-!
# Words, numbers and strings

Reading the parts of a document that have no parts of their own.  Each reader takes the place after
the character that told it apart (the first letter of a word, the minus sign, the opening quote) and
answers with what it read and the place behind it.

A number is a whole number when it is written without point and exponent and lies between `-2^63`
and `2^64 - 1`; every other number, and `-0`, is a double.  Its digits are gathered as long as they
fit 64 bits; later whole digits raise the exponent and later decimals are dropped.

## Main definitions

* `readWord`: the rest of `null`, `true` or `false`.
* `readNumber`: a number.
* `readString`: a string.
-/

namespace Clearance.Json

/-- The rest of a word. -/
def readWord : List Char → Cursor → Except Stop Cursor
  | [], c => .ok c
  | w :: word, c =>
    match c.rest with
    | [] => .error (c.stop .endInValue)
    | x :: rest =>
      let after : Cursor := ⟨rest, c.offset + 1⟩
      if x = w then readWord word after else .error (after.stop .expectedIdent)

/-! ## Numbers -/

/-- An ASCII digit. -/
def isDigit (c : Char) : Bool := '0' ≤ c && c ≤ '9'

/-- The value of a digit. -/
def digitValue (c : Char) : Nat := c.toNat - '0'.toNat

/-- The digits at a place and the place behind them. -/
def takeDigits (c : Cursor) : List Char × Cursor :=
  let digits := c.rest.takeWhile isDigit
  (digits, ⟨c.rest.dropWhile isDigit, c.offset + digits.length⟩)

/-- Append digits to a number as long as it stays within a limit; with the count of those left
out. -/
def gather (limit : Nat) : Nat → List Char → Nat × Nat
  | n, [] => (n, 0)
  | n, d :: rest =>
    let next := n * 10 + digitValue d
    if next ≤ limit then gather limit next rest else (n, rest.length + 1)

/-- The largest number of 64 bits. -/
def wordLimit : Nat := UInt64.size - 1

/-- `significand * 10 ^ exponent` as a double: one rounding of the significand, and one product or
quotient with a power of ten, in steps of `10 ^ 308`.  A number too large for a double is none;
after three steps down nothing is left of any. -/
def scaleBy : Nat → Double → Int → Option Double
  | 0, x, _ => some x
  | steps + 1, x, exponent =>
    if exponent.natAbs ≤ 308 then
      if 0 ≤ exponent then
        let y := x.mul (Double.powerOfTen exponent.toNat)
        if y.isInfinite then none else some y
      else some (x.div (Double.powerOfTen exponent.natAbs))
    else if x.isZero then some x
    else if 0 ≤ exponent then none
    else scaleBy steps (x.div (Double.powerOfTen 308)) (exponent + 308)

/-- The double with a significand and an exponent, at the place behind its text. -/
def realAt (negative : Bool) (significand : Nat) (exponent : Int) (c : Cursor) :
    Except Stop (Json × Cursor) :=
  match scaleBy 4 (Double.ofNat significand) exponent with
  | some x => .ok (.real (if negative then x.neg else x), c)
  | none => .error (c.stop .numberOutOfRange)

/-- The sign of an exponent, and the place behind it. -/
def exponentSign (c : Cursor) : Bool × Cursor :=
  match c.rest with
  | '+' :: rest => (false, ⟨rest, c.offset + 1⟩)
  | '-' :: rest => (true, ⟨rest, c.offset + 1⟩)
  | _ => (false, c)

/-- The exponent, from behind its letter.  One beyond 31 bits makes a number too large, unless
the significand is zero, or too small. -/
def readExponent (negative : Bool) (significand : Nat) (exponent : Int) (c : Cursor) :
    Except Stop (Json × Cursor) :=
  let (down, c) := exponentSign c
  let (digits, after) := takeDigits c
  match digits, c.rest with
  | [], [] => .error (c.stop .endInValue)
  | [], _ => .error ⟨.invalidNumber, some (c.offset + 1)⟩
  | _, _ =>
    let (n, left) := gather ((1 <<< 31) - 1) 0 digits
    if left = 0 then
      realAt negative significand (if down then exponent - n else exponent + n) after
    else if significand ≠ 0 ∧ ¬ down then
      .error ⟨.numberOutOfRange, some (c.offset + (digits.length - left) + 1)⟩
    else .ok (.real (Double.ofMagnitude negative 0), after)

/-- The decimals, from behind the point. -/
def readDecimals (negative : Bool) (significand : Nat) (exponent : Int) (c : Cursor) :
    Except Stop (Json × Cursor) :=
  let (digits, after) := takeDigits c
  if digits.isEmpty then .error (c.stopOrEnd .endInValue .invalidNumber)
  else
    let (n, left) := gather wordLimit significand digits
    let exponent := exponent - ((digits.length - left : Nat) : Int)
    match after.rest with
    | 'e' :: rest | 'E' :: rest => readExponent negative n exponent ⟨rest, after.offset + 1⟩
    | _ => realAt negative n exponent after

/-- The whole number of a sign and a significand, or the double nearest to it. -/
def wholeNumber (negative : Bool) (significand : Nat) : Json :=
  if !negative then .int significand
  else if 0 < significand ∧ significand ≤ 1 <<< 63 then .int (-(significand : Int))
  else .real (Double.ofNat significand).neg

/-- A number, from behind its sign. -/
def readNumber (negative : Bool) (c : Cursor) : Except Stop (Json × Cursor) :=
  let (digits, after) := takeDigits c
  match digits with
  | [] =>
    .error (if c.rest.isEmpty then c.stop .endInValue else ⟨.invalidNumber, some (c.offset + 1)⟩)
  | '0' :: _ :: _ => .error ⟨.invalidNumber, some (c.offset + 2)⟩
  | _ =>
    let (n, left) := gather wordLimit 0 digits
    match after.rest with
    | '.' :: rest => readDecimals negative n left ⟨rest, after.offset + 1⟩
    | 'e' :: rest | 'E' :: rest => readExponent negative n left ⟨rest, after.offset + 1⟩
    | _ => if left = 0 then .ok (wholeNumber negative n, after) else realAt negative n left after

/-! ## Strings -/

/-- The value of a hexadecimal digit. -/
def hexValue? (c : Char) : Option Nat :=
  if '0' ≤ c ∧ c ≤ '9' then some (c.toNat - '0'.toNat)
  else if 'a' ≤ c ∧ c ≤ 'f' then some (c.toNat - 'a'.toNat + 10)
  else if 'A' ≤ c ∧ c ≤ 'F' then some (c.toNat - 'A'.toNat + 10)
  else none

/-- The number that hexadecimal digits write. -/
def hexNumber? (digits : List Char) : Option Nat :=
  digits.foldl (fun n c => do return (← n) * 16 + (← hexValue? c)) (some 0)

/-- Four hexadecimal digits.  Four bytes are taken whatever they are, and checked after that. -/
def readUnit (c : Cursor) : Except Stop (Nat × Cursor) :=
  let four := c.rest.take 4
  match if four.length = 4 then hexNumber? four else none with
  | some n => .ok (n, ⟨c.rest.drop 4, c.offset + 4⟩)
  | none =>
    let bytes := byteLength four
    if bytes < 4 then .error ⟨.endInString, some (c.offset + bytes)⟩
    else .error ⟨.invalidEscape, some (c.offset + 4)⟩

/-- One expected character of a surrogate pair. -/
def readPairMark (mark : Char) (c : Cursor) : Except Stop Cursor :=
  match c.rest with
  | [] => .error (c.stop .endInString)
  | x :: rest =>
    let after : Cursor := ⟨rest, c.offset + 1⟩
    if x = mark then .ok after else .error (after.stop .unfinishedSurrogate)

/-- The character of an escape by code unit: one unit, or two that form a surrogate pair. -/
def readCodeUnits (c : Cursor) : Except Stop (Char × Cursor) := do
  let (n, c) ← readUnit c
  if 0xDC00 ≤ n ∧ n ≤ 0xDFFF then .error (c.stop .loneSurrogate)
  else if 0xD800 ≤ n ∧ n ≤ 0xDBFF then
    let c ← readPairMark '\\' c
    let c ← readPairMark 'u' c
    let (m, c) ← readUnit c
    if 0xDC00 ≤ m ∧ m ≤ 0xDFFF then
      .ok (Char.ofNat (0x10000 + (n - 0xD800) * 0x400 + (m - 0xDC00)), c)
    else .error (c.stop .loneSurrogate)
  else .ok (Char.ofNat n, c)

/-- What stands for a character after a backslash. -/
def escapeLetters : List (Char × Char) :=
  [('"', '"'), ('\\', '\\'), ('/', '/'), ('b', '\x08'), ('f', '\x0c'), ('n', '\n'), ('r', '\r'),
    ('t', '\t')]

/-- An escape, from behind its backslash. -/
def readEscape (c : Cursor) : Except Stop (Char × Cursor) :=
  match c.rest with
  | [] => .error (c.stop .endInString)
  | x :: rest =>
    let after : Cursor := ⟨rest, c.offset + 1⟩
    match escapeLetters.lookup x with
    | some y => .ok (y, after)
    | none => if x = 'u' then readCodeUnits after else .error (after.stop .invalidEscape)

/-- The characters of a string up to its closing quote; each step takes at least one. -/
def readStringFrom : Nat → Cursor → Except Stop (List Char × Cursor)
  | 0, c => .error (c.stop .endInString)
  | fuel + 1, c =>
    match c.rest with
    | [] => .error (c.stop .endInString)
    | '"' :: rest => .ok ([], ⟨rest, c.offset + 1⟩)
    | '\\' :: rest => do
      let (x, c) ← readEscape ⟨rest, c.offset + 1⟩
      let (more, c) ← readStringFrom fuel c
      .ok (x :: more, c)
    | x :: rest =>
      if x.toNat < 0x20 then .error ⟨.controlCharacter, some (c.offset + 1)⟩
      else do
        let (more, c) ← readStringFrom fuel ⟨rest, c.offset + x.utf8Size⟩
        .ok (x :: more, c)

/-- A string, from behind its opening quote. -/
def readString (c : Cursor) : Except Stop (String × Cursor) := do
  let (cs, c) ← readStringFrom (c.rest.length + 1) c
  .ok (String.ofList cs, c)

end Clearance.Json
