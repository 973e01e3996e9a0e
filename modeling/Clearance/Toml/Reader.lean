import Clearance.Toml.Node
import Clearance.Toml.Quoted
import Clearance.Toml.Scalar

/-!
# Reading settings files

The text of a settings file is a sequence of lines: comments, headers in brackets, which open a
table or add one to an array, and keys with their values, which go into the table opened last.
Values may be nested up to 80 deep, and so may keys with dots.  A text that is not of this form has
no tree, and the reason is not told.

## Main definitions

* `keys?`: a key, or several with dots between them.
* `value?`: a value of any kind.
* `parse?`: the tree of a text.
-/

namespace Clearance.Toml

/-! ## White space and comments -/

/-- A text without the spaces and tabs at its start. -/
def skipSpaces (cs : List Char) : List Char := cs.dropWhile isSpace

/-- What follows a comment, which lasts up to the end of its line; all of a text that does not
start with one. -/
def skipComment (cs : List Char) : List Char :=
  match cs with
  | '#' :: rest => rest.dropWhile isTextual
  | cs => cs

/-- What follows the end of a line. -/
def lineEnd? (cs : List Char) : Option (List Char) :=
  let cs := skipComment (skipSpaces cs)
  if cs.isEmpty then some [] else lineBreak? cs

/-- What follows spaces, comments and line breaks. -/
def skipLines : Nat → List Char → List Char
  | 0, cs => cs
  | fuel + 1, cs =>
    let cs := skipSpaces cs
    match lineBreak? (skipComment cs) with
    | some rest => skipLines fuel rest
    | none => cs

/-- What follows spaces, comments and line breaks. -/
def skipFiller (cs : List Char) : List Char := skipLines (cs.length + 1) cs

/-! ## Keys -/

/-- How many arrays and tables may be nested in a value, and how many keys dots may join. -/
def maxDepth : Nat := 80

/-- A character of a key without quotes. -/
def isBare (c : Char) : Bool := c.isAlphanum || c == '_' || c == '-'

/-- One key. -/
def key? (cs : List Char) : Option (String × List Char) :=
  match cs with
  | '"' :: rest => quoted? '"' rest
  | '\'' :: rest => quoted? '\'' rest
  | cs =>
    let bare := cs.takeWhile isBare
    if bare.isEmpty then none else some (String.ofList bare, cs.drop bare.length)

/-- The keys that follow with dots in front of them. -/
def moreKeys? : Nat → List Char → Option (List String × List Char)
  | 0, _ => none
  | fuel + 1, cs =>
    match skipSpaces cs with
    | '.' :: rest => do
      let (k, rest) ← key? (skipSpaces rest)
      let (ks, rest) ← moreKeys? fuel rest
      return (k :: ks, rest)
    | rest => some ([], rest)

/-- A key, or several with dots between them: those before the last, and the last.  With what
follows the spaces behind them. -/
def keys? (cs : List Char) : Option ((List String × String) × List Char) := do
  let (k, rest) ← key? cs
  let (ks, rest) ← moreKeys? (rest.length + 1) rest
  if maxDepth ≤ ks.length then none
  else
    match ks.getLast? with
    | some last => return ((k :: ks.dropLast, last), rest)
    | none => return (([], k), rest)

/-! ## Values -/

/-- A character of a value without quotes and brackets. -/
def isScalar (c : Char) : Bool :=
  c.isAlphanum || c == '+' || c == '-' || c == '.' || c == '_' || c == ':'

/-- The text of a value without quotes and brackets.  A time may follow a date behind a space. -/
def takeScalar (cs : List Char) : List Char × List Char :=
  let first := cs.takeWhile isScalar
  let rest := cs.drop first.length
  match date? first, rest with
  | some (_, []), ' ' :: d :: _ =>
    if Json.isDigit d then
      let second := (rest.drop 1).takeWhile isScalar
      (first ++ ' ' :: second, rest.drop (second.length + 1))
    else (first, rest)
  | _, _ => (first, rest)

/-- A value that has no others inside, or none where brackets or braces open. -/
def plain? (cs : List Char) : Option (Scalar × List Char) :=
  match cs with
  | '"' :: '"' :: '"' :: rest => (longQuoted? '"' rest).map fun (s, rest) => (.text s, rest)
  | '\'' :: '\'' :: '\'' :: rest => (longQuoted? '\'' rest).map fun (s, rest) => (.text s, rest)
  | '"' :: rest => (quoted? '"' rest).map fun (s, rest) => (.text s, rest)
  | '\'' :: rest => (quoted? '\'' rest).map fun (s, rest) => (.text s, rest)
  | cs =>
    let (text, rest) := takeScalar cs
    (scalar? text).map (·, rest)

/-- The items of an array, from behind its bracket or the last comma. -/
def items? (value : List Char → Option (Node × List Char)) :
    Nat → List Char → Option (List Node × List Char)
  | 0, _ => none
  | fuel + 1, cs =>
    match skipFiller cs with
    | ']' :: rest => some ([], rest)
    | cs => do
      let (v, rest) ← value cs
      match skipFiller rest with
      | ']' :: rest => return ([v], rest)
      | ',' :: rest =>
        let (vs, rest) ← items? value fuel rest
        return (v :: vs, rest)
      | _ => none

/-- The members of a table between braces, from behind its brace or the last comma.  A line may end
anywhere but inside a key or a value. -/
def members? (value : List Char → Option (Node × List Char)) :
    Nat → Table → List Char → Option (Table × List Char)
  | 0, _, _ => none
  | fuel + 1, t, cs =>
    match skipFiller cs with
    | '\x7d' :: rest => some (t, rest)
    | cs => do
      let ((path, k), rest) ← keys? cs
      match skipFiller rest with
      | '=' :: rest =>
        let (v, rest) ← value (skipFiller rest)
        let t ← t.assign path k v
        match skipFiller rest with
        | '\x7d' :: rest => return (t, rest)
        | ',' :: rest => members? value fuel t rest
        | _ => none
      | _ => none

/-- A value, with at most `depth` arrays and tables inside one another. -/
def value? (depth : Nat) (cs : List Char) : Option (Node × List Char) :=
  match cs, depth with
  | '[' :: _, 0 | '\x7b' :: _, 0 => none
  | '[' :: rest, depth + 1 =>
    (items? (value? depth) (rest.length + 1) rest).map fun (vs, rest) => (.array false vs, rest)
  | '\x7b' :: rest, depth + 1 =>
    (members? (value? depth) (rest.length + 1) { kind := .headed } rest).map fun (t, rest) =>
      (.table .inline_ t.members, rest)
  | cs, _ => (plain? cs).map fun (v, rest) => (.leaf v, rest)

/-! ## Lines -/

/-- The tree so far, and the header of the table that was opened last. -/
structure Draft where
  root : Table := { kind := .headed }
  header : List String := []

/-- A header, from behind its brackets. -/
def header? (d : Draft) (ofTables : Bool) (cs : List Char) : Option (Draft × List Char) := do
  let ((path, k), rest) ← keys? (skipSpaces cs)
  let rest ←
    match rest, ofTables with
    | ']' :: rest, false | ']' :: ']' :: rest, true => some rest
    | _, _ => none
  let root ← if ofTables then d.root.append path k else d.root.open_ path k
  return (⟨root, path ++ [k]⟩, ← lineEnd? rest)

/-- A key with its value. -/
def member? (d : Draft) (cs : List Char) : Option (Draft × List Char) := do
  let ((path, k), rest) ← keys? cs
  match rest with
  | '=' :: rest =>
    let (v, rest) ← value? maxDepth (skipSpaces rest)
    let root ← d.root.within false d.header fun t => t.assign path k v
    return ({ d with root }, ← lineEnd? rest)
  | _ => none

/-- The lines of a text, each of which takes at least one character. -/
def lines? : Nat → Draft → List Char → Option Table
  | 0, _, _ => none
  | fuel + 1, d, cs =>
    match skipFiller cs with
    | [] => some d.root
    | '[' :: '[' :: rest => do
      let (d, rest) ← header? d true rest
      lines? fuel d rest
    | '[' :: rest => do
      let (d, rest) ← header? d false rest
      lines? fuel d rest
    | cs =>
      if (lineEnd? cs) = some [] then some d.root
      else do
        let (d, rest) ← member? d cs
        lines? fuel d rest

/-- The tree that a text writes.  A mark of byte order may stand in front of it. -/
def parse? (text : List Char) : Option Node :=
  let text := match text with
    | '\uFEFF' :: rest => rest
    | text => text
  (lines? (text.length + 1) {} text).map Table.toNode

end Clearance.Toml
