import Clearance.Json.Fault

/-!
# Places in a text

A `Cursor` is a place in a text: what is left to read, and the number of bytes before it.  Reading
stops either *before* a byte that was looked at, and then the fault is placed one byte behind it,
or *after* a byte that was taken.  Lines and columns are computed from the byte offset at the end,
columns in bytes since the last line break.

## Main definitions

* `Cursor`, `Cursor.skipBlanks`: a place and the first one that is not white space.
* `Stop`: a cause and the byte offset where reading stopped.
* `locate`: the line and the column of a byte offset.
-/

namespace Clearance.Json

/-- A place in a text: what is left to read and how many bytes come before it. -/
structure Cursor where
  rest : List Char
  offset : Nat
  deriving DecidableEq, Repr

/-- Why reading stopped, and at which byte; a cause found in a document that was already read has
no place of its own. -/
structure Stop where
  cause : Cause
  offset : Option Nat
  deriving DecidableEq, Repr

/-- The four characters that may stand between the parts of a document. -/
def isSeparator (c : Char) : Bool := c == ' ' || c == '\n' || c == '\t' || c == '\r'

/-- The length of a text in bytes. -/
def byteLength : List Char → Nat
  | [] => 0
  | c :: rest => c.utf8Size + byteLength rest

namespace Cursor

/-- The start of a text. -/
def start (text : List Char) : Cursor := ⟨text, 0⟩

/-- The place after the white space. -/
def skipBlanks (c : Cursor) : Cursor :=
  ⟨c.rest.dropWhile isSeparator, c.offset + (c.rest.takeWhile isSeparator).length⟩

/-- Stop at a place, after what was taken. -/
def stop (c : Cursor) (cause : Cause) : Stop := ⟨cause, some c.offset⟩

/-- Stop before the next byte, which was looked at; at the end of the text there is none. -/
def stopBefore (c : Cursor) (cause : Cause) : Stop :=
  ⟨cause, some (if c.rest.isEmpty then c.offset else c.offset + 1)⟩

/-- Stop before the next byte, with another cause at the end of the text. -/
def stopOrEnd (c : Cursor) (atEnd cause : Cause) : Stop :=
  c.stopBefore (if c.rest.isEmpty then atEnd else cause)

end Cursor

/-- Line and column of what comes after the first `offset` bytes of a text. -/
def locate (text : List Char) (offset : Nat) : Nat × Nat :=
  go text 0 1 0
where
  /-- The walk over the text: bytes passed, line, and the offset at which the line starts. -/
  go : List Char → Nat → Nat → Nat → Nat × Nat
    | [], _, line, lineStart => (line, offset - lineStart)
    | c :: rest, passed, line, lineStart =>
      if offset ≤ passed then (line, offset - lineStart)
      else if c = '\n' then go rest (passed + 1) (line + 1) (passed + 1)
      else go rest (passed + c.utf8Size) line lineStart

/-- The fault of a text in which reading stopped. -/
def Stop.inText (s : Stop) (text : List Char) : Fault :=
  ⟨s.cause, s.offset.map (locate text)⟩

end Clearance.Json
