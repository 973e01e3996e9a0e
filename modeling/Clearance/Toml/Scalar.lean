import Clearance.Toml.Moment

/-!
# Values without parts

Texts, numbers, dates and truth values.  Those that are written without quotes are cut out of the
text as a whole first and then have to match one of the forms.

## Main definitions

* `Scalar`: a value without parts.
* `whole?`, `real?`: numbers in the four bases, and numbers with decimals or an exponent.
* `scalar?`: the value of a text without quotes.
-/

namespace Clearance.Toml

open Json (isDigit hexValue?)

/-- A value without quotes, brackets and braces around it, or a quoted text.  Whole numbers may have
any size here; a number with decimals or an exponent may be too large for a double. -/
inductive Scalar where
  | text (s : String)
  | flag (b : Bool)
  | whole (n : Int)
  | real (x : Double)
  | tooLarge
  | moment (m : Moment)
  deriving DecidableEq, Repr

/-! ## Numbers -/

/-- The digits of a group in which single underscores may stand between digits. -/
def digitGroup? (ok : Char → Bool) : List Char → Option (List Char)
  | [] => none
  | [c] => if ok c then some [c] else none
  | c :: '_' :: rest => if ok c then (digitGroup? ok rest).map (c :: ·) else none
  | c :: rest => if ok c then (digitGroup? ok rest).map (c :: ·) else none

/-- A sign, and what follows it. -/
def takeSign : List Char → Option Bool × List Char
  | '+' :: rest => (some false, rest)
  | '-' :: rest => (some true, rest)
  | rest => (none, rest)

/-- Digits without a zero before others. -/
def plainDigits? (cs : List Char) : Option (List Char) :=
  match digitGroup? isDigit cs with
  | some ('0' :: _ :: _) => none
  | digits => digits

/-- A digit of a base. -/
def isDigitOf (base : Nat) (c : Char) : Bool := ((hexValue? c).map (decide <| · < base)).getD false

/-- A whole number: decimal with a sign or without, or in one of three other bases. -/
def whole? (cs : List Char) : Option Int :=
  let based (base : Nat) (digits : List Char) : Option Int := do
    return numberIn base (← digitGroup? (isDigitOf base) digits)
  match cs with
  | '0' :: 'x' :: digits => based 16 digits
  | '0' :: 'o' :: digits => based 8 digits
  | '0' :: 'b' :: digits => based 2 digits
  | _ =>
    let (sign, digits) := takeSign cs
    do
      let n := (numberIn 10 (← plainDigits? digits) : Int)
      return if sign = some true then -n else n

/-- The exponent behind its letter. -/
def exponent? (cs : List Char) : Option Int :=
  let (sign, digits) := takeSign cs
  (digitGroup? isDigit digits).map fun ds =>
    let n := (numberIn 10 ds : Int)
    if sign = some true then -n else n

/-- Decimals, and an exponent if one follows. -/
def decimals? (cs : List Char) : Option (List Char × Int) :=
  let digits := cs.takeWhile fun c => isDigit c || c == '_'
  match cs.drop digits.length with
  | [] => (digitGroup? isDigit digits).map (·, 0)
  | 'e' :: rest | 'E' :: rest => do return (← digitGroup? isDigit digits, ← exponent? rest)
  | _ => none

/-- A number with decimals, an exponent or both, as the double nearest to it. -/
def decimal? (negative : Bool) (cs : List Char) : Option Double := do
  let before := cs.takeWhile fun c => isDigit c || c == '_'
  let digits ← plainDigits? before
  let (decimals, exponent) ←
    match cs.drop before.length with
    | '.' :: rest => decimals? rest
    | 'e' :: rest | 'E' :: rest => (exponent? rest).map ([], ·)
    | _ => none
  return .ofDecimal negative (numberIn 10 (digits ++ decimals)) (exponent - decimals.length)

/-- A number with decimals or an exponent, or one of the special values. -/
def real? (cs : List Char) : Option Scalar :=
  let (sign, size) := takeSign cs
  let negative := sign = some true
  if size = ['i', 'n', 'f'] then some (.real (.infinity negative))
  else if size = ['n', 'a', 'n'] then some (.real .undefined)
  else (decimal? negative size).map fun x => if x.isFinite then .real x else .tooLarge

/-! ## Values -/

/-- The value that a text without quotes writes. -/
def scalar? (cs : List Char) : Option Scalar :=
  if cs = ['t', 'r', 'u', 'e'] then some (.flag true)
  else if cs = ['f', 'a', 'l', 's', 'e'] then some (.flag false)
  else
    ((whole? cs).map Scalar.whole).orElse fun _ =>
      (real? cs).orElse fun _ => (moment? cs).map .moment

end Clearance.Toml
