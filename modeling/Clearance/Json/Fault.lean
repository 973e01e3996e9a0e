import Clearance.Number.Shortest
import Clearance.Text.Quoted
import Clearance.Text.Segments

/-!
# What can be wrong with a document

The causes for which a text is refused, either because it is no JSON or because it is not of the
form that the reader asked for, with their wording and the place in the text.

## Main definitions

* `Seen`: what stands in a document where something else was expected.
* `Cause`: why a document is refused; `Cause.message` words it and `Cause.kind` sorts it.
* `Fault`: a cause with its place in the text, where it has one.
-/

namespace Clearance.Json

/-- What stands in a document, as far as a message tells. -/
inductive Seen where
  | null
  | bool (b : Bool)
  | int (n : Int)
  | real (x : Double)
  | string (s : String)
  | array
  | object
  deriving DecidableEq, Repr

/-- The wording of what was seen. -/
def Seen.message : Seen → String
  | .null => "null"
  | .bool true => "boolean `true`"
  | .bool false => "boolean `false`"
  | .int n => "integer `" ++ toString n ++ "`"
  | .real x => "floating point `" ++ x.text ++ "`"
  | .string s => "string " ++ Text.quoted s
  | .array => "sequence"
  | .object => "map"

/-- Why a document is refused. -/
inductive Cause where
  | endInArray
  | endInObject
  | endInString
  | endInValue
  | expectedColon
  | expectedArrayEnd
  | expectedObjectEnd
  | expectedIdent
  | expectedValue
  | invalidEscape
  | invalidNumber
  | numberOutOfRange
  | controlCharacter
  | keyNotString
  | loneSurrogate
  | unfinishedSurrogate
  | trailingComma
  | trailingCharacters
  | tooDeep
  | missingField (name : String)
  | duplicateField (name : String)
  | wrongType (seen : Seen) (wanted : String)
  | wrongValue (seen : Seen) (wanted : String)
  | wrongLength (length : Nat) (wanted : String)
  | unknownVariant (name : String) (known : List String)
  | noVariant (name : String)
  deriving DecidableEq, Repr

/-- The three kinds of cause: the text ends too early, it is no JSON, or its form is another. -/
inductive Cause.Kind where
  | early
  | malformed
  | unfit
  deriving DecidableEq, Repr

/-- The kind of a cause. -/
def Cause.kind : Cause → Cause.Kind
  | .endInArray | .endInObject | .endInString | .endInValue => .early
  | .missingField _ | .duplicateField _ | .wrongType _ _ | .wrongValue _ _ | .wrongLength _ _
  | .unknownVariant _ _ | .noVariant _ => .unfit
  | _ => .malformed

/-- The names of an enumeration, as a message lists them. -/
def listNames : List String → String
  | [] => "there are no variants"
  | [a] => "`" ++ a ++ "`"
  | [a, b] => "`" ++ a ++ "` or `" ++ b ++ "`"
  | names => "one of " ++ Text.joinWith ", " (names.map fun n => "`" ++ n ++ "`")

/-- The wording of a cause. -/
def Cause.message : Cause → String
  | .endInArray => "EOF while parsing a list"
  | .endInObject => "EOF while parsing an object"
  | .endInString => "EOF while parsing a string"
  | .endInValue => "EOF while parsing a value"
  | .expectedColon => "expected `:`"
  | .expectedArrayEnd => "expected `,` or `]`"
  | .expectedObjectEnd => "expected `,` or `\x7d`"
  | .expectedIdent => "expected ident"
  | .expectedValue => "expected value"
  | .invalidEscape => "invalid escape"
  | .invalidNumber => "invalid number"
  | .numberOutOfRange => "number out of range"
  | .controlCharacter => "control character (\\u0000-\\u001F) found while parsing a string"
  | .keyNotString => "key must be a string"
  | .loneSurrogate => "lone leading surrogate in hex escape"
  | .unfinishedSurrogate => "unexpected end of hex escape"
  | .trailingComma => "trailing comma"
  | .trailingCharacters => "trailing characters"
  | .tooDeep => "recursion limit exceeded"
  | .missingField name => "missing field `" ++ name ++ "`"
  | .duplicateField name => "duplicate field `" ++ name ++ "`"
  | .wrongType seen wanted => "invalid type: " ++ seen.message ++ ", expected " ++ wanted
  | .wrongValue seen wanted => "invalid value: " ++ seen.message ++ ", expected " ++ wanted
  | .wrongLength length wanted => "invalid length " ++ toString length ++ ", expected " ++ wanted
  | .unknownVariant name known => "unknown variant `" ++ name ++ "`, expected " ++ listNames known
  | .noVariant name => "data did not match any variant of untagged enum " ++ name

/-- A cause, with the line and the column where reading stopped if the document was a text. -/
structure Fault where
  cause : Cause
  place : Option (Nat × Nat)
  deriving DecidableEq, Repr

/-- The wording of a fault. -/
def Fault.message (f : Fault) : String :=
  match f.place with
  | none => f.cause.message
  | some (line, column) =>
    f.cause.message ++ " at line " ++ toString line ++ " column " ++ toString column

end Clearance.Json
