import Clearance.Text.Quoted
import Clearance.Number.Shortest
import Clearance.Toml.Document

/-!
# Taking values from trees

A `Decoder α` takes a value of a type from a tree.  Where the tree is of another form it says what
it met first, going through tables in the order of their keys.

A record is taken from a table, whose unknown keys are passed over, or from an array of its fields
in their own order, which may end early or go on.  It starts with its defaults.

## Main definitions

* `Misfit`: why a tree is refused.
* `Decoder`: `text`, `flag`, `word`, `list` and `record`.
-/

namespace Clearance.Toml

/-! ## Misfits -/

/-- Why a tree is refused: a value is of another kind than was asked for or of none of its values,
or a number is too large for any kind. -/
inductive Misfit where
  | wrongType (seen : Node) (wanted : String)
  | wrongValue (seen : Node) (wanted : String)
  | wholeTooLarge
  | realTooLarge
  deriving Repr

/-- A number in words, as no power of ten. -/
def realName (x : Double) : String :=
  if x.isFinite then x.plainText
  else if x.isInfinite then (if x.isNegative then "-inf" else "inf")
  else "NaN"

/-- A whole number in words.  Beyond 64 bits, with or without a sign, it is told how it was held. -/
def wholeName (n : Int) : String :=
  "integer `" ++ toString n ++ "`" ++
    if isWord n ∨ (0 ≤ n ∧ n < UInt64.size) then ""
    else if n < 1 <<< 127 then " as i128"
    else " as u128"

/-- What a tree is, in words. -/
def Node.name : Node → String
  | .leaf (.text s) => "string " ++ Text.quoted s
  | .leaf (.flag b) => "boolean `" ++ (if b then "true" else "false") ++ "`"
  | .leaf (.whole n) => wholeName n
  | .leaf (.real x) => "floating point `" ++ realName x ++ "`"
  | .leaf .tooLarge => "floating point"
  | .leaf (.moment _) | .table _ _ => "map"
  | .array _ _ => "sequence"

/-- The wording of a misfit. -/
def Misfit.message : Misfit → String
  | .wrongType seen wanted => "invalid type: " ++ seen.name ++ ", expected " ++ wanted
  | .wrongValue seen wanted => "invalid value: " ++ seen.name ++ ", expected " ++ wanted
  | .wholeTooLarge => "integer number overflowed"
  | .realTooLarge => "floating-point number overflowed"

/-- A number that is too large for any kind: a whole one has at most 128 bits, with or without a
sign. -/
def Scalar.excess? : Scalar → Option Misfit
  | .whole n => if -(1 <<< 127) ≤ n ∧ n < 1 <<< 128 then none else some .wholeTooLarge
  | .tooLarge => some .realTooLarge
  | _ => none

/-! ## Decoders -/

/-- A way to take a value from a tree. -/
abbrev Decoder (α : Type) := Node → Except Misfit α

variable {α σ : Type}

/-- Refuse a tree. -/
def refuse (wanted : String) : Decoder α
  | .leaf v => .error ((v.excess?).getD (.wrongType (.leaf v) wanted))
  | v => .error (.wrongType v wanted)

namespace Decoder

/-- Texts. -/
def text : Decoder String
  | .leaf (.text s) => .ok s
  | v => refuse "a string" v

/-- Truth values. -/
def flag : Decoder Bool
  | .leaf (.flag b) => .ok b
  | v => refuse "a boolean" v

/-- Natural numbers of 64 bits. -/
def word : Decoder UInt64
  | .leaf (.whole n) =>
    if 0 ≤ n ∧ n < UInt64.size then .ok (.ofNat n.toNat)
    else if isWord n then .error (.wrongValue (.leaf (.whole n)) "usize")
    else refuse "usize" (.leaf (.whole n))
  | v => refuse "usize" v

/-- Arrays of values of one kind. -/
def list (item : Decoder α) : Decoder (List α)
  | .array _ items => items.mapM item
  | v => refuse "a sequence" v

mutual
/-- Pass over a tree.  Only the size of its numbers is looked at. -/
def passOver : Decoder Unit
  | .leaf v =>
    match v.excess? with
    | some misfit => .error misfit
    | none => .ok ()
  | .array _ items => passOverItems items
  | .table _ members => passOverMembers members

/-- Pass over the items of an array. -/
def passOverItems : List Node → Except Misfit Unit
  | [] => .ok ()
  | v :: rest => do
    passOver v
    passOverItems rest

/-- Pass over the members of a table. -/
def passOverMembers : List (String × Node) → Except Misfit Unit
  | [] => .ok ()
  | (_, v) :: rest => do
    passOver v
    passOverMembers rest
end

/-- A field of a record: its key, and how its value changes the record. -/
structure Part (σ : Type) where
  key : String
  set : Node → σ → Except Misfit σ

/-- A field, from a way to take its value and one to put it into the record. -/
def part (key : String) (value : Decoder α) (put : α → σ → σ) : Part σ :=
  ⟨key, fun v s => return put (← value v) s⟩

/-- Take the member of a table into a record. -/
def takeMember (parts : List (Part σ)) (s : σ) (member : String × Node) : Except Misfit σ :=
  match parts.find? (·.key = member.1) with
  | some part => part.set member.2 s
  | none => do
    passOver member.2
    return s

/-- Records, from their defaults.  A moment counts as a table without any of the keys. -/
def record (name : String) (parts : List (Part σ)) (start : σ) : Decoder σ
  | .table _ members => members.foldlM (takeMember parts) start
  | .array _ items => (parts.zip items).foldlM (fun s (part, v) => part.set v s) start
  | .leaf (.moment _) => .ok start
  | v => refuse ("struct " ++ name) v

end Decoder
end Clearance.Toml
