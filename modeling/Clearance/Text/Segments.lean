/-!
# Segments

Cutting a text at a separator.  A text always has at least one segment, and the segments joined by
the separator give the text back (`join_splitOn`).

## Main definitions

* `splitOn`: all segments between a separator.
* `lastSegment`: what follows the last slash.
* `splitScheme`: a text cut at its first `://`.
-/

namespace Clearance.Text

/-- The segments of a text between the occurrences of a separator. -/
def splitOn (sep : Char) : List Char → List (List Char)
  | [] => [[]]
  | c :: rest =>
    if c = sep then [] :: splitOn sep rest
    else
      match splitOn sep rest with
      | [] => [[c]]
      | s :: more => (c :: s) :: more

/-- What follows the last slash of a text; all of it when it has none. -/
def lastSegment (cs : List Char) : List Char :=
  (cs.reverse.takeWhile (· ≠ '/')).reverse

/-- The two sides of the first `://`. -/
def splitScheme : List Char → Option (List Char × List Char)
  | [] => none
  | ':' :: '/' :: '/' :: rest => some ([], rest)
  | c :: rest => (splitScheme rest).map fun (scheme, tail) => (c :: scheme, tail)

/-- Texts set one after another with a separator between them. -/
def joinWith (sep : String) : List String → String
  | [] => ""
  | [s] => s
  | s :: more => s ++ sep ++ joinWith sep more

theorem splitOn_ne_nil (sep : Char) (cs : List Char) : splitOn sep cs ≠ [] := by
  induction cs with
  | nil => simp [splitOn]
  | cons c rest ih =>
    unfold splitOn
    split
    · simp
    · split <;> simp

/-- The segments joined by the separator are the text. -/
theorem join_splitOn (sep : Char) (cs : List Char) :
    [sep].intercalate (splitOn sep cs) = cs := by
  induction cs with
  | nil => simp [splitOn]
  | cons c rest ih =>
    unfold splitOn
    split
    · next h =>
      subst h
      match hs : splitOn c rest with
      | [] => exact absurd hs (splitOn_ne_nil c rest)
      | s :: more => rw [hs] at ih; simp [List.intercalate, List.intersperse] at ih ⊢; exact ih
    · match hs : splitOn sep rest with
      | [] => exact absurd hs (splitOn_ne_nil sep rest)
      | s :: more =>
        rw [hs] at ih
        cases more with
        | nil => simpa [List.intercalate, List.intersperse] using ih
        | cons t ts => simpa [List.intercalate, List.intersperse] using ih

end Clearance.Text
