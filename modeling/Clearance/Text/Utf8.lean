/-!
# Bytes as text

Reading bytes as UTF-8 where every sequence of bytes has to give some text.  Bytes that begin a
character which the next byte cannot continue become one U+FFFD together, and so does each byte that
begins no character.

## Main definitions

* `Lead`, `lead?`: the bytes that begin a character.
* `decodeLossy`: the text of some bytes.
-/

namespace Clearance.Text

/-- What begins a character of several bytes: the bits it contributes, how many bytes follow, and
the range of the first of them. -/
structure Lead where
  bits : Nat
  more : Nat
  low : Nat := 0x80
  high : Nat := 0xBF
  deriving DecidableEq, Repr

/-- The reading of a byte that begins a character of several bytes.  The ranges leave out longer
forms of characters that have a shorter one, surrogates, and numbers beyond the last character. -/
def lead? (b : Nat) : Option Lead :=
  if 0xC2 ≤ b ∧ b ≤ 0xDF then some { bits := b - 0xC0, more := 1 }
  else if b = 0xE0 then some { bits := 0, more := 2, low := 0xA0 }
  else if b = 0xED then some { bits := 0xD, more := 2, high := 0x9F }
  else if 0xE1 ≤ b ∧ b ≤ 0xEF then some { bits := b - 0xE0, more := 2 }
  else if b = 0xF0 then some { bits := 0, more := 3, low := 0x90 }
  else if 0xF1 ≤ b ∧ b ≤ 0xF3 then some { bits := b - 0xF0, more := 3 }
  else if b = 0xF4 then some { bits := 4, more := 3, high := 0x8F }
  else none

/-- What stands for bytes that are no character. -/
def replacement : Char := '\uFFFD'

/-- The text of some bytes.  `pending` is the character that was begun, if any. -/
def decodeFrom (pending : Option Lead) : List UInt8 → List Char
  | [] => if pending.isSome then [replacement] else []
  | byte :: rest =>
    let b := byte.toNat
    let fresh (lost : List Char) : List Char :=
      if b < 0x80 then lost ++ Char.ofNat b :: decodeFrom none rest
      else
        match lead? b with
        | some lead => lost ++ decodeFrom (some lead) rest
        | none => lost ++ replacement :: decodeFrom none rest
    match pending with
    | none => fresh []
    | some lead =>
      if lead.low ≤ b ∧ b ≤ lead.high then
        let bits := lead.bits * 64 + (b - 0x80)
        if lead.more = 1 then Char.ofNat bits :: decodeFrom none rest
        else decodeFrom (some { bits, more := lead.more - 1 }) rest
      else fresh [replacement]

/-- The text of some bytes, whatever they are. -/
def decodeLossy (bytes : List UInt8) : String := String.ofList (decodeFrom none bytes)

end Clearance.Text
