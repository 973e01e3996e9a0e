import Clearance.Settings.Decode
import Clearance.Settings.Installed
import Clearance.Settings.Overrides
import Clearance.Settings.Schema
import Clearance.Toml.Reader

/-!
# Loading settings

The text of a settings file becomes a tree, whose document is checked against the schema before the
settings are taken from the tree.  The file is the one that a variable names, or else the first that
is found in some directories; without any the defaults hold.

## Main definitions

* `LoadFault`: why a settings file is refused.
* `Settings.ofText`, `Settings.load`: the settings of a text and of a file.
* `Settings.locate?`: the path of a file among the directories that are searched.
* `Settings.effective`: the settings that are in force on a host.
-/

namespace Clearance

/-- Why a settings file is refused: it cannot be read, it is no settings file at all, its document
breaks the schema, or a value that the schema lets pass is not of the kind that the settings
have. -/
inductive LoadFault where
  | unreadable (path : String) (fault : FileFault)
  | malformed (path : String)
  | invalid (path : String) (violations : List Json.Violation)
  | undecodable (misfit : Toml.Misfit)
  deriving Repr

namespace LoadFault

/-- The wording of a fault. -/
def message : LoadFault → String
  | .unreadable path fault => "reading config " ++ path ++ ": " ++ fault.message
  | .malformed path => "parsing config " ++ path
  | .invalid path violations =>
    "invalid config " ++ path ++ ": " ++ Text.joinWith ", " (violations.map (·.message))
  | .undecodable misfit => misfit.message

end LoadFault

namespace Settings

/-- The settings of a text; the path is that of its file.  A text whose tree has no document is
malformed as well. -/
def ofText (path text : String) : Except LoadFault Settings :=
  match Toml.parse? text.toList with
  | none => .error (.malformed path)
  | some tree =>
    match tree.document? with
    | none => .error (.malformed path)
    | some document =>
      match schema.violations document with
      | [] => (decoder tree).mapError .undecodable
      | violations => .error (.invalid path violations)

variable {m : Type → Type} [Monad m]

/-- The settings of a file. -/
def load (host : Host m) (path : String) : m (Except LoadFault Settings) := do
  return ((← host.readText path).mapError (.unreadable path)) >>= ofText path

/-- The path of a settings file.  An absolute one is not searched for. -/
def locate? (host : Host m) (path : String) : m (Option String) := do
  if isAbsolute path then return if ← host.isThere path then some path else none
  else
    let chosen ← host.given "COP_CONFIG_DIR"
    let roots ← host.searchRoots
    ((chosen.toList ++ roots).map (joinPath · path)).findM? host.isThere

/-- The settings that are in force on a host. -/
def effective (host : Host m) : m (Except LoadFault Settings) := do
  let path ←
    match ← host.given "COP_CONFIG" with
    | some path => pure (some path)
    | none => locate? host installedPath
  let settings ←
    match path with
    | some path => load host path
    | none => pure (.ok {})
  let overrides ← Overrides.read host
  return settings.map overrides.onto

end Settings
end Clearance
