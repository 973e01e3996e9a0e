import Clearance.Entitlement.Session

/-!
# Commands

What the program can be asked to do.  Files are given by their paths.

## Main definitions

* `Command`: the commands.
* `Command.Evaluation`: what an evaluation is given.
-/

namespace Clearance

/-- What an evaluation is given: files of entitlements, objects and notes, and what a narrowing
keeps.  Without a level nothing is narrowed. -/
structure Command.Evaluation where
  entitlements : String
  objects : String
  notes : Option String := none
  level : Option String := none
  needToKnow : List String := []
  relTo : List String := []
  indented : Bool := false
  deriving DecidableEq, Repr

/-- What the program can be asked to do. -/
inductive Command where
  /-- Tell the containers of ciphertexts. -/
  | classify (files : List String) (asJson : Bool)
  /-- Give the verdicts on objects and notes. -/
  | evaluate (evaluation : Command.Evaluation)
  /-- Give the banner of all objects, or of one with its notes. -/
  | banner (objects : String) (notes object : Option String)
  /-- Give the catalog of a policy. -/
  | catalog (definition : String) (indented : Bool)
  /-- Give the schema of the settings, or write it to a file. -/
  | schema (out : Option String)
  /-- Give the settings of a file, or those in force. -/
  | settings (path : Option String) (indented : Bool)
  deriving DecidableEq, Repr

end Clearance
