import Clearance.Codec
import Clearance.Json.Format
import Clearance.Marking.Attribute

/-!
# Documents of attributes, categories, levels and containers
-/

namespace Clearance

open Json

/-- An attribute is written as its text. -/
def Attribute.format : Format Attribute := Format.text.map Attribute.mk Attribute.text

/-- A category is written as its key. -/
def Category.format : Format Category := .names (Category.all.map fun c => (c.key, c)) Category.key

/-- A level is written as its name. -/
def Level.format : Format Level := .names (Level.all.map fun l => (l.name, l)) Level.name

/-- The name of a container in a document. -/
def Codec.key : Codec → String
  | .nano => "nano_tdf"
  | .standard => "tdf3"

/-- A container is written as its key. -/
def Codec.format : Format Codec := .names (Codec.all.map fun c => (c.key, c)) Codec.key

end Clearance
