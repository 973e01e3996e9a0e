import Clearance.Text.Case
import Clearance.Text.GlyphTable

/-!
# Quoted texts

A text between double quotes for a person to read.  Quotes and backslashes are escaped, the four
common controls have short escapes, and every other character without a glyph of its own is written
by its code point in braces.
-/

namespace Clearance.Text

/-- The digits of `n` in lower-case hexadecimal, without leading zeros. -/
def hexDigits (n : Nat) : List Char := Nat.toDigits 16 n

/-- A character with no glyph of its own. -/
def isGlyphless (c : Char) : Bool :=
  inRanges glyphlessRanges c.toNat || inRanges extendingRanges c.toNat

/-- One character of a quoted text. -/
def quotedChar (c : Char) : List Char :=
  match c with
  | '"' => ['\\', '"']
  | '\\' => ['\\', '\\']
  | '\n' => ['\\', 'n']
  | '\r' => ['\\', 'r']
  | '\t' => ['\\', 't']
  | _ =>
    if c.toNat = 0 then ['\\', '0']
    else if isGlyphless c then ['\\', 'u', '\x7b'] ++ hexDigits c.toNat ++ ['\x7d']
    else [c]

/-- A text between double quotes. -/
def quoted (s : String) : String :=
  String.ofList ('"' :: s.toList.flatMap quotedChar ++ ['"'])

end Clearance.Text
