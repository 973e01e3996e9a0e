import Clearance.Host.Basic
import Clearance.Text.Segments

/-!
# Machines

A machine as a value: its files, variables and working directory.  A path is followed one name at
a time, so that what it passes through has to be there.

## Main definitions

* `Machine`: a machine.
* `Machine.follow`: the place that a path leads to.
* `Machine.read`, `Machine.write`, `Machine.isThere`: its files.
* `Machine.host`: the machine as a host.
-/

namespace Clearance

/-- A machine.  Files and directories are known by the names that lead to them from the root. -/
structure Machine where
  files : List (List String × List UInt8) := []
  directories : List (List String) := []
  workingDirectory : List String := []
  environment : List (String × String) := []
  searchRoots : List String := []
  deriving Repr

namespace Machine

/-- What may lie at a place. -/
inductive Entry where
  | file (bytes : List UInt8)
  | directory
  deriving DecidableEq, Repr

/-- The directories that are there, with or without files in them. -/
def isDirectory (m : Machine) (place : List String) : Bool :=
  place.isEmpty || place.isPrefixOf m.workingDirectory ||
    m.directories.any place.isPrefixOf ||
    m.files.any fun (file, _) => place.isPrefixOf file.dropLast

/-- What lies at a place. -/
def entry? (m : Machine) (place : List String) : Option Entry :=
  match m.files.lookup place with
  | some bytes => some (.file bytes)
  | none => if m.isDirectory place then some .directory else none

/-! ## Following paths -/

/-- The names in a path. -/
def names (path : String) : List String := (Text.splitOn '/' path.toList).map String.ofList

/-- The place where a path starts. -/
def start (m : Machine) (path : String) : List String :=
  if isAbsolute path then [] else m.workingDirectory

/-- The place that names lead to.  All places but the last have to be directories; the last may be
empty.  A name that is too long is not looked up. -/
def follow (m : Machine) : List String → List String → Except FileFault (List String)
  | place, [] => .ok place
  | place, name :: rest =>
    match m.entry? place with
    | none => .error .missing
    | some (.file _) => .error .notDirectory
    | some .directory =>
      if name = "" ∨ name = "." then m.follow place rest
      else if name = ".." then m.follow place.dropLast rest
      else if nameLimit < name.utf8ByteSize then .error .tooLong
      else m.follow (place ++ [name]) rest

/-- The place that a path leads to. -/
def find (m : Machine) (path : String) : Except FileFault (List String) := do
  checkPath path
  m.follow (m.start path) (names path)

/-! ## Files -/

/-- The bytes of a file. -/
def read (m : Machine) (path : String) : Except FileFault (List UInt8) := do
  match m.entry? (← m.find path) with
  | some (.file bytes) => .ok bytes
  | some .directory => .error .isDirectory
  | none => .error .missing

/-- A file or a directory has this path. -/
def isThere (m : Machine) (path : String) : Bool :=
  match m.find path with
  | .ok place => (m.entry? place).isSome
  | .error _ => false

/-- Set the bytes of the file at a place. -/
def put (m : Machine) (place : List String) (bytes : List UInt8) : Machine :=
  { m with files := (place, bytes) :: m.files.filter fun (file, _) => file ≠ place }

/-- The directory in which the last name of a path is looked up, slashes at the end left out. -/
def directoryOfLast (m : Machine) (path : String) : Except FileFault (List String) :=
  let unslashed := ((names path).reverse.dropWhile (· = "")).reverse
  m.follow (m.start path) (unslashed.dropLast ++ ["."])

/-- Make a file or replace its bytes.  Its directory has to be there, and a path that ends with a
slash is that of a directory, whether there is one or not. -/
def write (m : Machine) (path : String) (bytes : List UInt8) : Except FileFault Machine := do
  checkPath path
  if path.toList.getLast? = some '/' then
    let _ ← m.directoryOfLast path
    .error .isDirectory
  else
    let place ← m.find path
    if m.entry? place = some .directory then .error .isDirectory else .ok (m.put place bytes)

/-! ## The host -/

/-- The machine as a host; writing changes it. -/
def host : Host (StateM Machine) where
  readBytes path := do return (← get).read path
  writeText path text := do
    match (← get).write path text.toUTF8.toList with
    | .ok m => set m; return .ok ()
    | .error fault => return .error fault
  isThere path := do return (← get).isThere path
  getVariable name := do return (← get).environment.lookup name
  searchRoots := do return (← get).searchRoots

end Machine
end Clearance
