import Clearance.Text.CaseTable

/-!
# Letter case

Upper-case and lower-case forms of whole texts.  A letter may become several (`ß` gives `SS`), and a
capital sigma is written in its final form where a word ends: some letter with case stands before
it, none after it, and characters such as apostrophes and combining marks are passed over in the
search.

## Main definitions

* `upperOf`, `upperChars`, `upper`: upper-case forms; no letter depends on its neighbours.
* `lowerOf`, `lowerChars`, `lower`: lower-case forms, the final sigma included.
* `asciiLowerOf`, `asciiLower`: only `A` to `Z` change.
-/

namespace Clearance.Text

/-- The image of `n` in an ascending list of spans. -/
def imageIn : List Span → Nat → Option Nat
  | [], _ => none
  | s :: rest, n =>
    if n < s.first then none
    else if n ≤ s.last then
      if (n - s.first) % s.step = 0 then some (s.image + (n - s.first)) else none
    else imageIn rest n

/-- Membership in an ascending list of closed ranges. -/
def inRanges : List (Nat × Nat) → Nat → Bool
  | [], _ => false
  | (lo, hi) :: rest, n => if n < lo then false else if n ≤ hi then true else inRanges rest n

/-! ## Upper case -/

/-- The upper-case form of one character. -/
def upperOf (c : Char) : List Char :=
  match imageIn upperSpans c.toNat with
  | some n => [Char.ofNat n]
  | none =>
    if c.toNat < 0x80 then [c]
    else
      match upperExpansions.lookup c.toNat with
      | some ns => ns.map Char.ofNat
      | none => [c]

/-- The upper-case form of a text, letter by letter. -/
def upperChars (cs : List Char) : List Char := cs.flatMap upperOf

/-- The upper-case form of a text. -/
def upper (s : String) : String := String.ofList (upperChars s.toList)

/-! ## Lower case -/

/-- The lower-case form of one character, apart from the final sigma. -/
def lowerOf (c : Char) : List Char :=
  if c = 'İ' then ['i', '\u0307']
  else
    match imageIn lowerSpans c.toNat with
    | some n => [Char.ofNat n]
    | none => [c]

/-- The first character that is not passed over has case. -/
def meetsCased (cs : List Char) : Bool :=
  match cs.dropWhile (fun c => inRanges caseIgnorableRanges c.toNat) with
  | [] => false
  | c :: _ => inRanges casedRanges c.toNat

/-- The form of a capital sigma between `before`, read backwards, and `after`. -/
def sigmaBetween (before after : List Char) : Char :=
  if meetsCased before && !meetsCased after then 'ς' else 'σ'

/-- The lower-case form of a text that follows `before`, which is read backwards. -/
def lowerAfter (before : List Char) : List Char → List Char
  | [] => []
  | c :: rest =>
    (if c = 'Σ' then [sigmaBetween before rest] else lowerOf c) ++ lowerAfter (c :: before) rest

/-- The lower-case form of a text. -/
def lowerChars (cs : List Char) : List Char := lowerAfter [] cs

/-- The lower-case form of a text. -/
def lower (s : String) : String := String.ofList (lowerChars s.toList)

/-! ## ASCII -/

/-- Lower case for `A` to `Z`; every other character stays. -/
def asciiLowerOf (c : Char) : Char :=
  if 'A' ≤ c ∧ c ≤ 'Z' then Char.ofNat (c.toNat + 32) else c

/-- Lower case for the letters `A` to `Z` of a text. -/
def asciiLower (cs : List Char) : List Char := cs.map asciiLowerOf

@[simp] theorem toList_upper (s : String) : (upper s).toList = upperChars s.toList := by
  simp [upper]

@[simp] theorem toList_lower (s : String) : (lower s).toList = lowerChars s.toList := by
  simp [lower]

@[simp] theorem upperChars_nil : upperChars [] = [] := rfl

theorem upperChars_append (a b : List Char) :
    upperChars (a ++ b) = upperChars a ++ upperChars b := by
  simp [upperChars]

end Clearance.Text
