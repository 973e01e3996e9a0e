import Clearance.Json.Basic
import Clearance.Number.Shortest

/-!
# JSON text

Two written forms of a document: compact, without white space, and indented by two spaces a level.
Both write members in the order of the tree, keep every character outside ASCII, and escape quotes,
backslashes and the controls below U+0020.

## Main definitions

* `Json.compact`: the compact text.
* `Json.indented`: the indented text, without a final newline.
-/

namespace Clearance.Json

/-- A hexadecimal digit in lower case. -/
def hexDigit (n : Nat) : Char := Nat.digitChar (n % 16)

/-- One character inside a string. -/
def escaped (c : Char) : List Char :=
  match c with
  | '"' => ['\\', '"']
  | '\\' => ['\\', '\\']
  | '\n' => ['\\', 'n']
  | '\r' => ['\\', 'r']
  | '\t' => ['\\', 't']
  | '\x08' => ['\\', 'b']
  | '\x0c' => ['\\', 'f']
  | _ =>
    if c.toNat < 0x20 then ['\\', 'u', '0', '0', hexDigit (c.toNat / 16), hexDigit c.toNat] else [c]

/-- A string with its quotes. -/
def stringChars (s : String) : List Char := '"' :: s.toList.flatMap escaped ++ ['"']

/-- A whole number. -/
def intChars (n : Int) : List Char :=
  (if n < 0 then ['-'] else []) ++ Nat.toDigits 10 n.natAbs

/-- A double; one that is not finite has no number to stand for it. -/
def realChars (x : Double) : List Char :=
  if x.isFinite then x.textChars else ['n', 'u', 'l', 'l']

mutual
/-- The compact text of a document. -/
def compactChars : Json → List Char
  | .null => ['n', 'u', 'l', 'l']
  | .bool true => ['t', 'r', 'u', 'e']
  | .bool false => ['f', 'a', 'l', 's', 'e']
  | .int n => intChars n
  | .real x => realChars x
  | .string s => stringChars s
  | .array [] => ['[', ']']
  | .array (v :: rest) => '[' :: v.compactChars ++ compactItems rest ++ [']']
  | .object [] => ['\x7b', '\x7d']
  | .object ((k, v) :: rest) =>
    '\x7b' :: stringChars k ++ ':' :: v.compactChars ++ compactMembers rest ++ ['\x7d']

/-- The items after the first. -/
def compactItems : List Json → List Char
  | [] => []
  | v :: rest => ',' :: v.compactChars ++ compactItems rest

/-- The members after the first. -/
def compactMembers : List (String × Json) → List Char
  | [] => []
  | (k, v) :: rest => ',' :: stringChars k ++ ':' :: v.compactChars ++ compactMembers rest
end

/-- A new line at a level of nesting. -/
def newline (level : Nat) : List Char := '\n' :: List.replicate (2 * level) ' '

mutual
/-- The indented text of a document inside `level` others. -/
def indentedChars (level : Nat) : Json → List Char
  | .array [] => ['[', ']']
  | .array (v :: rest) =>
    '[' :: newline (level + 1) ++ v.indentedChars (level + 1) ++ indentedItems (level + 1) rest ++
      newline level ++ [']']
  | .object [] => ['\x7b', '\x7d']
  | .object ((k, v) :: rest) =>
    '\x7b' :: newline (level + 1) ++ stringChars k ++ ':' :: ' ' :: v.indentedChars (level + 1) ++
      indentedMembers (level + 1) rest ++ newline level ++ ['\x7d']
  | v => v.compactChars

/-- The items after the first. -/
def indentedItems (level : Nat) : List Json → List Char
  | [] => []
  | v :: rest => ',' :: newline level ++ v.indentedChars level ++ indentedItems level rest

/-- The members after the first. -/
def indentedMembers (level : Nat) : List (String × Json) → List Char
  | [] => []
  | (k, v) :: rest =>
    ',' :: newline level ++ stringChars k ++ ':' :: ' ' :: v.indentedChars level ++
      indentedMembers level rest
end

/-- The compact text of a document. -/
def compact (v : Json) : String := String.ofList v.compactChars

/-- The indented text of a document. -/
def indented (v : Json) : String := String.ofList (v.indentedChars 0)

end Clearance.Json
