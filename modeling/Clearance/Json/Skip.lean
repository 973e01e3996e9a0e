import Clearance.Json.Reader

/-!
# Passing over values

A member whose key a reader does not know is passed over.  Its value has to be JSON, but it is
looked at no closer than that takes: nesting has no limit, numbers have no range, and an escape by
code unit needs four hexadecimal digits and nothing more.

The arrays and objects that are open at a place are kept in a list, innermost first.

## Main definitions

* `skipNumber`, `skipString`: parts.
* `skipValue`: a value.
-/

namespace Clearance.Json

/-- An array or object that has been opened. -/
inductive Frame where
  | array
  | object
  deriving DecidableEq, Repr

/-- The digits of an exponent, from behind its letter. -/
def skipExponent (c : Cursor) : Except Stop Cursor :=
  let (_, c) := exponentSign c
  let (digits, after) := takeDigits c
  if digits.isEmpty then
    .error ⟨.invalidNumber, some (if c.rest.isEmpty then c.offset else c.offset + 1)⟩
  else .ok after

/-- An exponent, if one follows. -/
def skipOptionalExponent (c : Cursor) : Except Stop Cursor :=
  match c.rest with
  | 'e' :: rest | 'E' :: rest => skipExponent ⟨rest, c.offset + 1⟩
  | _ => .ok c

/-- A number, from behind its sign. -/
def skipNumber (c : Cursor) : Except Stop Cursor :=
  let (digits, after) := takeDigits c
  match digits with
  | [] => .error ⟨.invalidNumber, some (if c.rest.isEmpty then c.offset else c.offset + 1)⟩
  | '0' :: _ :: _ => .error ⟨.invalidNumber, some (c.offset + 2)⟩
  | _ =>
    match after.rest with
    | '.' :: rest =>
      let point : Cursor := ⟨rest, after.offset + 1⟩
      let (decimals, after) := takeDigits point
      if decimals.isEmpty then .error (point.stopBefore .invalidNumber)
      else skipOptionalExponent after
    | _ => skipOptionalExponent after

/-- A string, from behind its opening quote.  A control character is noticed before it is taken. -/
def skipStringFrom : Nat → Cursor → Except Stop Cursor
  | 0, c => .error (c.stop .endInString)
  | fuel + 1, c =>
    match c.rest with
    | [] => .error (c.stop .endInString)
    | '"' :: rest => .ok ⟨rest, c.offset + 1⟩
    | ['\\'] => .error ⟨.endInString, some (c.offset + 1)⟩
    | '\\' :: x :: rest =>
      let after : Cursor := ⟨rest, c.offset + 2⟩
      if (escapeLetters.lookup x).isSome then skipStringFrom fuel after
      else if x = 'u' then do
        let (_, c) ← readUnit after
        skipStringFrom fuel c
      else .error (after.stop .invalidEscape)
    | x :: rest =>
      if x.toNat < 0x20 then .error (c.stop .controlCharacter)
      else skipStringFrom fuel ⟨rest, c.offset + x.utf8Size⟩

/-- A string, from behind its opening quote. -/
def skipString (c : Cursor) : Except Stop Cursor := skipStringFrom (c.rest.length + 1) c

/-- Close what ends at a place, and find where the next value starts.  `comma` says that a value
stands before the place, so that a comma is needed before another one.  Answers with the frames
that are still open, none when the whole value has ended. -/
def unwind : Bool → List Frame → Cursor → Except Stop (List Frame × Cursor)
  | _, [], c => .ok ([], c)
  | comma, frame :: outer, c =>
    let c := c.skipBlanks
    match c.rest, frame with
    | [], .array => .error (c.stopBefore .endInArray)
    | [], .object => .error (c.stopBefore .endInObject)
    | ']' :: rest, .array => unwind true outer ⟨rest, c.offset + 1⟩
    | '\x7d' :: rest, .object => unwind true outer ⟨rest, c.offset + 1⟩
    | x :: rest, frame =>
      if !comma then .ok (frame :: outer, c)
      else if x = ',' then .ok (frame :: outer, ⟨rest, c.offset + 1⟩)
      else
        .error (c.stopBefore (if frame = .array then .expectedArrayEnd else .expectedObjectEnd))

/-- The key and the colon before the next value of an object. -/
def skipKey (c : Cursor) : Except Stop Cursor :=
  let c := c.skipBlanks
  match c.rest with
  | '"' :: rest => do
    let c ← skipString ⟨rest, c.offset + 1⟩
    readColon c
  | _ => .error (c.stopOrEnd .endInObject .keyNotString)

/-- A value with no parts, or the opening of one that has some. -/
def skipStart (c : Cursor) : Except Stop (Option Frame × Cursor) :=
  match c.rest with
  | [] => .error (c.stopBefore .endInValue)
  | x :: rest =>
    let after : Cursor := ⟨rest, c.offset + 1⟩
    if x = 'n' then do return (none, ← readWord ['u', 'l', 'l'] after)
    else if x = 't' then do return (none, ← readWord ['r', 'u', 'e'] after)
    else if x = 'f' then do return (none, ← readWord ['a', 'l', 's', 'e'] after)
    else if x = '-' then do return (none, ← skipNumber after)
    else if isDigit x then do return (none, ← skipNumber c)
    else if x = '"' then do return (none, ← skipString after)
    else if x = '[' then .ok (some .array, after)
    else if x = '\x7b' then .ok (some .object, after)
    else .error (c.stopBefore .expectedValue)

/-- The rest of a value inside open frames.  Every round takes at least one character. -/
def skipWithin : Nat → List Frame → Cursor → Except Stop Cursor
  | 0, _, c => .error (c.stop .endInValue)
  | fuel + 1, open_, c => do
    let (opened, c) ← skipStart c.skipBlanks
    let (frames, c) ←
      match opened with
      | some frame => unwind false (frame :: open_) c
      | none => unwind true open_ c
    match frames with
    | [] => .ok c
    | .array :: _ => skipWithin fuel frames c
    | .object :: _ => skipWithin fuel frames (← skipKey c)

/-- A value of any kind. -/
def skipValue (c : Cursor) : Except Stop Cursor := skipWithin (c.rest.length + 1) [] c

end Clearance.Json
