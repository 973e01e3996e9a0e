import Clearance.Catalog
import Clearance.Codec
import Clearance.Command.Arguments
import Clearance.Offline
import Clearance.Settings.Load

/-!
# Running commands

A command reads its files one after another and prints at the end, except that the containers of
ciphertexts are told file by file.  The first fault ends it.

## Main definitions

* `CommandFault`: what stops a command.
* `Command.Printed`, `Command.run`: what a command prints, and its fault if there is one.
* `Exit`, `Command.runArguments`: the answer to arguments, with an exit code and two texts.
-/

namespace Clearance

/-- What stops a command. -/
inductive CommandFault where
  | unreadable (path : String) (fault : FileFault)
  | malformed (path : String) (fault : Json.Fault)
  | unwritable (path : String) (fault : FileFault)
  | unknownLevel (name : String)
  | unknownObject (id : String)
  | refused (fault : EntitlementFault)
  | settings (fault : LoadFault)
  deriving Repr

/-- The wording of a fault. -/
def CommandFault.message : CommandFault → String
  | .unreadable path fault => "reading " ++ path ++ ": " ++ fault.message
  | .malformed path fault => "parsing " ++ path ++ ": " ++ fault.message
  | .unwritable path fault => "writing schema to " ++ path ++ ": " ++ fault.message
  | .unknownLevel name => "unknown classification level: " ++ name
  | .unknownObject id => "object " ++ id ++ " not found"
  | .refused fault => fault.message
  | .settings fault => fault.message

namespace Command

/-- What a command prints, and what stopped it if anything did. -/
structure Printed where
  text : String := ""
  fault : Option CommandFault := none

/-- A line. -/
def line (s : String) : String := s ++ "\n"

/-- A document on lines of its own. -/
def documentLines (indented : Bool) (v : Json) : String :=
  line (if indented then v.indented else v.compact)

/-- What is printed at the end, unless something stops the command before. -/
def atEnd : Except CommandFault String → Printed
  | .ok text => { text }
  | .error fault => { fault := some fault }

variable {m : Type → Type} [Monad m]

/-! ## Files -/

/-- The value that the document in a file stands for. -/
def readDocument {α : Type} (host : Host m) (format : Json.Format α) (path : String) :
    ExceptT CommandFault m α := do
  match ← host.readText path with
  | .error fault => throw (.unreadable path fault)
  | .ok text =>
    match format.ofText text with
    | .error fault => throw (.malformed path fault)
    | .ok a => return a

/-- The markings of the payloads in a file. -/
def readMarkings (host : Host m) (path : String) : ExceptT CommandFault m (List Marking) :=
  Offline.markings <$> readDocument host (.list .fields) path

/-- The notes in a file, if one is given. -/
def readNotes (host : Host m) : Option String → ExceptT CommandFault m (List Note)
  | some path => readDocument host (.list Note.format) path
  | none => return []

/-! ## Commands -/

/-- Tell the containers of files, after those told so far and with the rows kept so far. -/
def classifyFiles (host : Host m) (asJson : Bool) :
    List String → String → List Json → m Printed
  | [], told, rows =>
    return { text := if asJson then told ++ documentLines false (.array rows) else told }
  | path :: rest, told, rows => do
    match ← host.readBytes path with
    | .error fault => return { text := told, fault := some (.unreadable path fault) }
    | .ok bytes =>
      let codec := (Codec.classify bytes).name
      if asJson then
        let row := Json.object
          [("bytes", .ofNat bytes.length), ("codec", .string codec), ("path", .string path)]
        classifyFiles host asJson rest told (rows ++ [row])
      else classifyFiles host asJson rest (told ++ line (path ++ "\t" ++ codec)) rows

/-- What a narrowing keeps, if one is asked for. -/
def Evaluation.selection (e : Evaluation) : Except CommandFault (Option Selection) :=
  match e.level with
  | none => .ok none
  | some name =>
    match Level.ofName? name with
    | some level => .ok (some ⟨level, e.needToKnow, e.relTo⟩)
    | none => .error (.unknownLevel name)

/-- The report of an evaluation. -/
def Evaluation.report (host : Host m) (e : Evaluation) :
    ExceptT CommandFault m Offline.Report := do
  let entitlements ← readDocument host (.list .text) e.entitlements
  let selection ← e.selection
  let active ← (Offline.activeSet (entitlements.map .mk) selection).mapError CommandFault.refused
  let objects ← readMarkings host e.objects
  let notes ← readNotes host e.notes
  return Offline.report active objects notes

/-- The banner of the objects in a file, or of one of them with its notes. -/
def bannerOf (host : Host m) (objects : String) (notes object : Option String) :
    ExceptT CommandFault m Banner := do
  let objects ← readMarkings host objects
  match object with
  | none => return .compute objects
  | some id =>
    match objects.find? fun o => o.id = id with
    | none => throw (.unknownObject id)
    | some o => return Offline.bannerOf o (← readNotes host notes)

/-- The document of a catalog for reading: entries by category, and the ranked levels. -/
def catalogJson (c : Catalog) : Json :=
  let entry (e : Catalog.Entry) : Json :=
    .object
      [("fqn", .string e.value.text), ("group", (e.group.map Json.string).getD .null),
        ("label", .string e.label)]
  let entries := Category.all.map fun category =>
    (category.segment, Json.array ((c.entries category).map entry))
  (Json.object (entries ++ [("levels", .ofStrings (c.levels.map Level.name))])).canonical

/-- Write the schema of the settings to a file. -/
def writeSchema (host : Host m) (path : String) : ExceptT CommandFault m Unit := do
  match ← host.writeText path Settings.schema.document.indented with
  | .ok () => return ()
  | .error fault => throw (.unwritable path fault)

/-- The settings of a file, or those in force. -/
def readSettings (host : Host m) : Option String → ExceptT CommandFault m Settings
  | some path => .mk <| (·.mapError CommandFault.settings) <$> Settings.load host path
  | none => .mk <| (·.mapError CommandFault.settings) <$> Settings.effective host

/-- Run a command. -/
def run (host : Host m) : Command → m Printed
  | .classify files asJson => classifyFiles host asJson files "" []
  | .evaluate e => atEnd <$> ExceptT.run do
    return documentLines e.indented (← e.report host).toJson
  | .banner objects notes object => atEnd <$> ExceptT.run do
    return line (← bannerOf host objects notes object).display
  | .catalog definition indented => atEnd <$> ExceptT.run do
    let policy ← readDocument host Policy.format definition
    return documentLines indented (catalogJson (.ofPolicy policy))
  | .schema none => return { text := documentLines true Settings.schema.document }
  | .schema (some path) => atEnd <$> ExceptT.run do
    writeSchema host path
    return line ("wrote " ++ path)
  | .settings path indented => atEnd <$> ExceptT.run do
    return documentLines indented (Settings.format.encode (← readSettings host path))

end Command

/-! ## Exits -/

/-- How the program ends: its code, and what it has written to the two streams. -/
structure Exit where
  code : UInt32
  output : String := ""
  errors : String := ""
  deriving DecidableEq, Repr

namespace Command

/-- The name of the program and its version. -/
def version : String := "cop-cli 0.2.0-dev"

/-- How the program is called. -/
def usage : String :=
  "Usage: cop-cli <classify|evaluate|banner|catalog|config schema|config check> [OPTIONS]"

/-- How the program ends after what a command printed. -/
def Printed.exit (p : Printed) : Exit :=
  match p.fault with
  | none => { code := 0, output := p.text }
  | some fault => { code := 1, output := p.text, errors := line fault.message }

/-- Run the command that arguments ask for. -/
def runArguments {m : Type → Type} [Monad m] (host : Host m) (arguments : List String) : m Exit :=
  match ofArguments arguments with
  | .ok command => Printed.exit <$> command.run host
  | .error .help => return { code := 0, output := line usage }
  | .error .version => return { code := 0, output := line version }
  | .error .rejected => return { code := 2, errors := line usage }

end Command
end Clearance
