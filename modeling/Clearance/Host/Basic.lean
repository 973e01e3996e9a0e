import Clearance.Text.Blank

/-!
# Hosts

What the program asks of the machine it runs on: files by their paths, variables by their names,
and the directories in which its own files may lie.  A `Host` answers in any monad, so that the
same program runs on a real machine and on one that is a value.

## Main definitions

* `FileFault`: why a file cannot be read or written.
* `Host`: the questions.
* `Host.readText`, `Host.given`: the text of a file, and a variable that is not blank.
* `joinPath`, `isAbsolute`, `checkPath`: paths.
-/

namespace Clearance

/-- Why a file cannot be read or written. -/
inductive FileFault where
  | missing
  | notDirectory
  | isDirectory
  | tooLong
  | zeroInPath
  | notText
  | other (message : String)
  deriving DecidableEq, Repr

/-- The wording of a fault. -/
def FileFault.message : FileFault → String
  | .missing => "No such file or directory (os error 2)"
  | .notDirectory => "Not a directory (os error 20)"
  | .isDirectory => "Is a directory (os error 21)"
  | .tooLong => "File name too long (os error 36)"
  | .zeroInPath => "file name contained an unexpected NUL byte"
  | .notText => "stream did not contain valid UTF-8"
  | .other message => message

/-- What the program asks of the machine it runs on. -/
structure Host (m : Type → Type) where
  /-- The bytes of a file. -/
  readBytes : String → m (Except FileFault (List UInt8))
  /-- Make a file or replace its text. -/
  writeText : String → String → m (Except FileFault Unit)
  /-- A file or a directory has this path. -/
  isThere : String → m Bool
  /-- The value of a variable. -/
  getVariable : String → m (Option String)
  /-- The directories in which the program's own files may lie, in the order in which they are
  searched. -/
  searchRoots : m (List String)

namespace Host

variable {m : Type → Type} [Monad m]

/-- The text that bytes encode. -/
def decodeText (bytes : List UInt8) : Except FileFault String :=
  match String.fromUTF8? ⟨bytes.toArray⟩ with
  | some s => .ok s
  | none => .error .notText

/-- The text of a file. -/
def readText (host : Host m) (path : String) : m (Except FileFault String) := do
  return (← host.readBytes path) >>= decodeText

/-- The value of a variable, unless it is blank. -/
def given (host : Host m) (name : String) : m (Option String) := do
  return (← host.getVariable name).filter fun value => !Text.isBlankText value

end Host

/-! ## Paths -/

/-- The path starts at the root of all directories. -/
def isAbsolute (path : String) : Bool := path.toList.head? == some '/'

/-- The number of bytes that a path stays below. -/
def pathLimit : Nat := 4096

/-- The number of bytes that a name in a path may have. -/
def nameLimit : Nat := 255

/-- What is wrong with a path before it is followed.  The zero character would end it early. -/
def checkPath (path : String) : Except FileFault Unit :=
  if path.toList.any (·.toNat = 0) then .error .zeroInPath
  else if path = "" then .error .missing
  else if pathLimit ≤ path.utf8ByteSize then .error .tooLong
  else .ok ()

/-- A path inside a directory. -/
def joinPath (directory path : String) : String :=
  if isAbsolute path ∨ directory = "" then path
  else if directory.toList.getLast? = some '/' then directory ++ path
  else directory ++ "/" ++ path

end Clearance
