import Clearance.Text.Blank
import Clearance.Text.Case

/-!
# Categories and levels

An attribute belongs to one of three categories, and classifications have four ranked levels.

## Main definitions

* `Category`: classification, need to know, release to.
* `Category.ofSlug?`: the category of a name, whatever its case, underscores and hyphens.
* `Level`: the ranked classifications, lowest first.
* `Level.ofName?`, `Level.subordinates`: the level of a name, and those that it covers.
-/

namespace Clearance

/-- The three categories of attributes. -/
inductive Category where
  | classification
  | needToKnow
  | relTo
  deriving DecidableEq, Repr

namespace Category

/-- All categories, in the order in which a catalog lists them. -/
def all : List Category := [.classification, .needToKnow, .relTo]

/-- The name of a category inside an attribute. -/
def segment : Category → String
  | .classification => "classification"
  | .needToKnow => "needtoknow"
  | .relTo => "relto"

/-- The name of a category in a document. -/
def key : Category → String
  | .classification => "classification"
  | .needToKnow => "needToKnow"
  | .relTo => "relTo"

/-- The letters of a slug that tell categories apart. -/
def slugLetters (slug : List Char) : List Char :=
  (Text.asciiLower (Text.trimChars slug)).filter fun c => c ≠ '_' ∧ c ≠ '-'

/-- The category of a slug.  White space around it, the case of its ASCII letters, underscores and
hyphens do not matter. -/
def ofSlug? (slug : String) : Option Category :=
  all.find? fun c => c.segment.toList = slugLetters slug.toList

end Category

/-- The ranked classifications. -/
inductive Level where
  | unclassified
  | confidential
  | secret
  | topSecret
  deriving DecidableEq, Repr, Inhabited

namespace Level

/-- All levels, lowest first. -/
def all : List Level := [.unclassified, .confidential, .secret, .topSecret]

/-- The rank of a level. -/
def priority : Level → Nat
  | .unclassified => 0
  | .confidential => 1
  | .secret => 2
  | .topSecret => 3

/-- The name of a level. -/
def name : Level → String
  | .unclassified => "UNCLASSIFIED"
  | .confidential => "CONFIDENTIAL"
  | .secret => "SECRET"
  | .topSecret => "TOPSECRET"

instance : LE Level := ⟨fun a b => a.priority ≤ b.priority⟩

instance (a b : Level) : Decidable (a ≤ b) := inferInstanceAs (Decidable (a.priority ≤ b.priority))

instance : Max Level := ⟨fun a b => if a ≤ b then b else a⟩

/-- The level of a name, whatever its case and the white space around it. -/
def ofName? (s : String) : Option Level :=
  all.find? fun l => l.name = Text.upper (Text.trim s)

/-- The level of a rank. -/
def ofPriority? (n : Nat) : Option Level := all[n]?

/-- The levels that a level covers, itself among them, lowest first. -/
def subordinates (l : Level) : List Level := all.filter (· ≤ l)

/-- The highest of some levels. -/
def highest? : List Level → Option Level
  | [] => none
  | l :: rest => some (rest.foldl max l)

end Level
end Clearance
