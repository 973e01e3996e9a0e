import Clearance.Json.Scan

/-!
# Reading documents

The strict grammar of JSON: no comments, no trailing commas, keys in quotes.  Arrays and objects may
be nested in one another up to 127 deep; the depth that is left is the argument on which
`readValue` recurses.  The loops over items and members take the reader of a single value as an
argument, so that the readers of documents of a given form share them.

## Main definitions

* `readItems`, `readMembers`: the inside of an array or object, given how a value is read.
* `closeArray`, `closeObject`: the end of one.
* `readValue`: any document, members as they were written.
* `Json.parse`: a whole text as a document in canonical form.
-/

namespace Clearance.Json

/-! ## Inside arrays and objects -/

/-- How many arrays and objects may be nested in one another. -/
def maxDepth : Nat := 127

/-- Whether another item follows, and the place where it starts or where the array ends.  The
first item needs no comma, and a comma needs an item behind it. -/
def nextItem (first : Bool) (c : Cursor) : Except Stop (Bool × Cursor) :=
  let c := c.skipBlanks
  match c.rest with
  | [] => .error (c.stopBefore .endInArray)
  | ']' :: _ => .ok (false, c)
  | x :: rest =>
    if first then .ok (true, c)
    else if x = ',' then
      let c := (⟨rest, c.offset + 1⟩ : Cursor).skipBlanks
      match c.rest with
      | [] => .error (c.stopBefore .endInValue)
      | ']' :: _ => .error (c.stopBefore .trailingComma)
      | _ => .ok (true, c)
    else .error (c.stopBefore .expectedArrayEnd)

/-- Whether another member follows, and the place behind the opening quote of its key or where
the object ends. -/
def nextKey (first : Bool) (c : Cursor) : Except Stop (Bool × Cursor) :=
  let c := c.skipBlanks
  match c.rest with
  | [] => .error (c.stopBefore .endInObject)
  | '\x7d' :: _ => .ok (false, c)
  | x :: rest =>
    if first then keyAt c
    else if x = ',' then
      let c := (⟨rest, c.offset + 1⟩ : Cursor).skipBlanks
      match c.rest with
      | '\x7d' :: _ => .error (c.stopBefore .trailingComma)
      | _ => keyAt c
    else .error (c.stopBefore .expectedObjectEnd)
where
  /-- The opening quote of a key. -/
  keyAt (c : Cursor) : Except Stop (Bool × Cursor) :=
    match c.rest with
    | '"' :: rest => .ok (true, ⟨rest, c.offset + 1⟩)
    | _ => .error (c.stopOrEnd .endInValue .keyNotString)

/-- The colon after a key. -/
def readColon (c : Cursor) : Except Stop Cursor :=
  let c := c.skipBlanks
  match c.rest with
  | ':' :: rest => .ok ⟨rest, c.offset + 1⟩
  | _ => .error (c.stopOrEnd .endInObject .expectedColon)

/-- The items of an array, up to its end.  Every item takes at least one character. -/
def readItems {α : Type} (item : Cursor → Except Stop (α × Cursor)) :
    Nat → Bool → Cursor → Except Stop (List α × Cursor)
  | 0, _, c => .error (c.stop .endInArray)
  | fuel + 1, first, c => do
    let (more, c) ← nextItem first c
    if more then
      let (v, c) ← item c
      let (vs, c) ← readItems item fuel false c
      .ok (v :: vs, c)
    else .ok ([], c)

/-- The members of an object, up to its end.  Every member takes at least one character. -/
def readMembers {α : Type} (value : Cursor → Except Stop (α × Cursor)) :
    Nat → Bool → Cursor → Except Stop (List (String × α) × Cursor)
  | 0, _, c => .error (c.stop .endInObject)
  | fuel + 1, first, c => do
    let (more, c) ← nextKey first c
    if more then
      let (k, c) ← readString c
      let c ← readColon c
      let (v, c) ← value c
      let (vs, c) ← readMembers value fuel false c
      .ok ((k, v) :: vs, c)
    else .ok ([], c)

/-- The place behind the end of an array, or why it does not end here, with the place at which
that was noticed. -/
def closeArray (c : Cursor) : Except (Stop × Cursor) Cursor :=
  let c := c.skipBlanks
  match c.rest with
  | ']' :: rest => .ok ⟨rest, c.offset + 1⟩
  | ',' :: rest =>
    let c := (⟨rest, c.offset + 1⟩ : Cursor).skipBlanks
    match c.rest with
    | ']' :: _ => .error (c.stopBefore .trailingComma, c)
    | _ => .error (c.stopBefore .trailingCharacters, c)
  | _ => .error (c.stopOrEnd .endInArray .trailingCharacters, c)

/-- The place behind the end of an object, or why it does not end here. -/
def closeObject (c : Cursor) : Except (Stop × Cursor) Cursor :=
  let c := c.skipBlanks
  match c.rest with
  | '\x7d' :: rest => .ok ⟨rest, c.offset + 1⟩
  | ',' :: _ => .error (c.stopBefore .trailingComma, c)
  | _ => .error (c.stopOrEnd .endInObject .trailingCharacters, c)

/-- The place behind an end. -/
def closed (e : Except (Stop × Cursor) Cursor) : Except Stop Cursor :=
  match e with
  | .ok c => .ok c
  | .error (stop, _) => .error stop

/-! ## Documents -/

/-- A value with no parts, or none when an array or object starts at the place. -/
def readPlain (c : Cursor) : Option (Except Stop (Json × Cursor)) :=
  match c.rest with
  | [] => some (.error (c.stopBefore .endInValue))
  | x :: rest =>
    let after : Cursor := ⟨rest, c.offset + 1⟩
    if x = 'n' then some do return (.null, ← readWord ['u', 'l', 'l'] after)
    else if x = 't' then some do return (.bool true, ← readWord ['r', 'u', 'e'] after)
    else if x = 'f' then some do return (.bool false, ← readWord ['a', 'l', 's', 'e'] after)
    else if x = '-' then some (readNumber true after)
    else if isDigit x then some (readNumber false c)
    else if x = '"' then some do
      let (s, c) ← readString after
      return (.string s, c)
    else if x = '[' ∨ x = '\x7b' then none
    else some (.error (c.stopBefore .expectedValue))

/-- A document with at most `depth` arrays and objects nested in one another. -/
def readValue (depth : Nat) (c : Cursor) : Except Stop (Json × Cursor) :=
  let c := c.skipBlanks
  match readPlain c with
  | some r => r
  | none =>
    match depth with
    | 0 => .error (c.stopBefore .tooDeep)
    | depth + 1 =>
      let inner : Cursor := ⟨c.rest.drop 1, c.offset + 1⟩
      if c.rest.head? = some '[' then do
        let (items, c) ← readItems (readValue depth) (inner.rest.length + 1) true inner
        return (.array items, ← closed (closeArray c))
      else do
        let (members, c) ← readMembers (readValue depth) (inner.rest.length + 1) true inner
        return (.object members, ← closed (closeObject c))

/-- Nothing but white space up to the end of the text. -/
def readEnd (c : Cursor) : Except Stop Unit :=
  let c := c.skipBlanks
  if c.rest.isEmpty then .ok () else .error (c.stopBefore .trailingCharacters)

/-- A whole text, read by a given reader. -/
def readText {α : Type} (reader : Cursor → Except Stop (α × Cursor)) (text : List Char) :
    Except Fault α :=
  let read : Except Stop α := do
    let (v, c) ← reader (.start text)
    readEnd c
    return v
  match read with
  | .ok v => .ok v
  | .error stop => .error (stop.inText text)

/-- The document that a text writes, in canonical form. -/
def parse (text : List Char) : Except Fault Json :=
  (readText (readValue maxDepth) text).map canonical

end Clearance.Json
