import Clearance.Json.Scan

/-!
# Quoted texts of a settings file

Four kinds of quotes: double ones, inside which a backslash escapes, and single ones, inside which
nothing does; and three of either for texts of several lines.  A line break right after three
quotes is left out, and a backslash at the end of a line joins it to the next.

## Main definitions

* `quoted?`: a text in one line, in either kind of quotes.
* `longQuoted?`: a text in three quotes of either kind.
-/

namespace Clearance.Toml

open Json (hexNumber?)

/-- Space and tab. -/
def isSpace (c : Char) : Bool := c == ' ' || c == '\t'

/-- A character that may stand in a text or a comment. -/
def isTextual (c : Char) : Bool := c == '\t' || (0x20 ≤ c.toNat && c.toNat != 0x7F)

/-- What follows a line break. -/
def lineBreak? : List Char → Option (List Char)
  | '\n' :: rest | '\r' :: '\n' :: rest => some rest
  | _ => none

/-- A character by its code point in hexadecimal digits. -/
def codePoint? (count : Nat) (cs : List Char) : Option (Char × List Char) :=
  let digits := cs.take count
  if digits.length = count then do
    let n ← hexNumber? digits
    if n.isValidChar then some (Char.ofNat n, cs.drop count) else none
  else none

/-- What stands for a character after a backslash. -/
def shortEscapes : List (Char × Char) :=
  [('b', '\x08'), ('t', '\t'), ('n', '\n'), ('f', '\x0c'), ('r', '\r'), ('e', '\x1b'), ('"', '"'),
    ('\\', '\\')]

/-- An escape, from behind its backslash. -/
def escape? : List Char → Option (Char × List Char)
  | [] => none
  | c :: rest =>
    match shortEscapes.lookup c with
    | some x => some (x, rest)
    | none =>
      if c = 'x' then codePoint? 2 rest
      else if c = 'u' then codePoint? 4 rest
      else if c = 'U' then codePoint? 8 rest
      else none

/-! ## One line -/

/-- A text up to its closing quote. -/
def lineFrom (quote : Char) : Nat → List Char → Option (List Char × List Char)
  | 0, _ => none
  | fuel + 1, cs =>
    match cs with
    | [] => none
    | c :: rest =>
      if c = quote then some ([], rest)
      else if c = '\\' ∧ quote = '"' then do
        let (x, rest) ← escape? rest
        let (more, rest) ← lineFrom quote fuel rest
        return (x :: more, rest)
      else if isTextual c then do
        let (more, rest) ← lineFrom quote fuel rest
        return (c :: more, rest)
      else none

/-- A text in one line, from behind its opening quote. -/
def quoted? (quote : Char) (cs : List Char) : Option (String × List Char) :=
  (lineFrom quote (cs.length + 1) cs).map fun (text, rest) => (String.ofList text, rest)

/-! ## Several lines -/

/-- What follows white space and line breaks. -/
def nextText? : List Char → Option (List Char)
  | ' ' :: rest | '\t' :: rest | '\n' :: rest | '\r' :: '\n' :: rest => nextText? rest
  | '\r' :: _ => none
  | cs => some cs

/-- What follows a backslash that joins lines: the white space at the end of its line, and all white
space up to the next text. -/
def joined? (cs : List Char) : Option (List Char) :=
  (lineBreak? (cs.dropWhile isSpace)).bind nextText?

/-- A text up to its three closing quotes, before which one or two more belong to it. -/
def linesFrom (quote : Char) : Nat → List Char → Option (List Char × List Char)
  | 0, _ => none
  | fuel + 1, cs =>
    match cs with
    | [] => none
    | c :: rest =>
      if c = quote then
        let count := (cs.takeWhile (· = quote)).length
        if 3 ≤ count then
          let kept := min (count - 3) 2
          some (List.replicate kept quote, cs.drop (kept + 3))
        else do
          let (more, rest) ← linesFrom quote fuel rest
          return (c :: more, rest)
      else if c = '\\' ∧ quote = '"' then
        match joined? rest with
        | some rest => linesFrom quote fuel rest
        | none => do
          let (x, rest) ← escape? rest
          let (more, rest) ← linesFrom quote fuel rest
          return (x :: more, rest)
      else
        match lineBreak? cs with
        | some rest => do
          let (more, rest) ← linesFrom quote fuel rest
          return ((if c = '\r' then ['\r', '\n'] else ['\n']) ++ more, rest)
        | none =>
          if isTextual c then do
            let (more, rest) ← linesFrom quote fuel rest
            return (c :: more, rest)
          else none

/-- A text of several lines, from behind its three opening quotes. -/
def longQuoted? (quote : Char) (cs : List Char) : Option (String × List Char) :=
  (linesFrom quote (cs.length + 1) ((lineBreak? cs).getD cs)).map fun (text, rest) =>
    (String.ofList text, rest)

end Clearance.Toml
