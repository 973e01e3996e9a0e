import Clearance.Command.Basic

/-!
# Arguments

The arguments of the program name a command and give its options.  An option stands behind two
dashes, with its value after an equals sign or as the next argument; what follows two dashes alone
is never an option.  Options that are unknown, without a value, or given twice where once is meant
are refused, and so is what no command takes.

## Main definitions

* `Choice`, `Given`, `Given.scan`: options, and those that were given.
* `Refusal`: why no command is run.
* `Command.ofArguments`: the command that arguments ask for.
-/

namespace Clearance.Command

/-- What an option takes: nothing, a text, or a path, which is not empty. -/
inductive Taken where
  | nothing
  | text
  | path
  deriving DecidableEq, Repr

/-- An option of a command. -/
structure Choice where
  name : String
  taken : Taken := .path
  repeats : Bool := false
  deriving DecidableEq, Repr

/-- Why no command is run: help or the version was asked for, or the arguments are refused. -/
inductive Refusal where
  | help
  | version
  | rejected
  deriving DecidableEq, Repr

/-- The options that were given, with their values, and the other arguments, both in order. -/
structure Given where
  options : List (String × String) := []
  operands : List String := []
  deriving DecidableEq, Repr

namespace Given

/-- The values of an option. -/
def values (g : Given) (name : String) : List String :=
  (g.options.filter fun o => o.1 = name).map (·.2)

/-- The value of an option. -/
def value? (g : Given) (name : String) : Option String := (g.values name).head?

/-- The option was given. -/
def has (g : Given) (name : String) : Bool := (g.value? name).isSome

/-- The value of an option that has to be given. -/
def required (g : Given) (name : String) : Except Refusal String :=
  match g.value? name with
  | some v => .ok v
  | none => .error .rejected

/-- Add an option. -/
def add (g : Given) (c : Choice) (value : String) : Except Refusal Given :=
  if (c.taken = .path ∧ value = "") ∨ (!c.repeats ∧ g.has c.name) then .error .rejected
  else .ok { g with options := g.options ++ [(c.name, value)] }

/-- Add another argument, a path, if the command takes any. -/
def addOperand (g : Given) (takesOperands : Bool) (operand : String) : Except Refusal Given :=
  if !takesOperands ∨ operand = "" then .error .rejected
  else .ok { g with operands := g.operands ++ [operand] }

/-- The name in a long option, and its value if that is attached. -/
def long? (argument : String) : Option (String × Option String) :=
  match argument.toList with
  | '-' :: '-' :: rest =>
    let name := rest.takeWhile (· ≠ '=')
    match rest.drop name.length with
    | _ :: value => some (String.ofList name, some (String.ofList value))
    | [] => some (String.ofList name, none)
  | _ => none

/-- The argument can only be an option. -/
def isDashed (argument : String) : Bool :=
  match argument.toList with
  | '-' :: _ :: _ => true
  | _ => false

/-- Read the arguments of a command that has the given choices. -/
def scan (choices : List Choice) (takesOperands : Bool) :
    List String → Given → Except Refusal Given
  | [], g => .ok g
  | argument :: rest, g =>
    if argument = "--" then rest.foldlM (fun g operand => g.addOperand takesOperands operand) g
    else if argument = "--help" ∨ argument.startsWith "-h" then .error .help
    else
      match long? argument with
      | none =>
        if isDashed argument then .error .rejected
        else do
          let g ← g.addOperand takesOperands argument
          scan choices takesOperands rest g
      | some (name, attached) =>
        match choices.find? fun c => c.name = name with
        | none => .error .rejected
        | some c =>
          match decide (c.taken = .nothing), attached, rest with
          | true, none, rest => do
            let g ← g.add c ""
            scan choices takesOperands rest g
          | false, some value, rest => do
            let g ← g.add c value
            scan choices takesOperands rest g
          | false, none, value :: rest =>
            if isDashed value then .error .rejected
            else do
              let g ← g.add c value
              scan choices takesOperands rest g
          | _, _, _ => .error .rejected

end Given

/-! ## Commands -/

/-- The names of the commands at each level. -/
def names : List (String × List String) :=
  [("classify", []), ("evaluate", []), ("banner", []), ("catalog", []),
    ("config", ["schema", "check"])]

/-- Help on the command of some names. -/
def helpOn : List String → Refusal
  | [] | ["help"] => .help
  | ["config", "help"] => .help
  | [name] => if (names.lookup name).isSome then .help else .rejected
  | [name, inner] => if inner ∈ (names.lookup name).getD [] then .help else .rejected
  | _ => .rejected

/-- The commands on settings. -/
def ofSettingsArguments : List String → Except Refusal Command
  | "schema" :: rest => do
    let g ← Given.scan [{ name := "out" }] false rest {}
    return .schema (g.value? "out")
  | "check" :: rest => do
    let g ← Given.scan [{ name := "path" }, { name := "pretty", taken := .nothing }] false rest {}
    return .settings (g.value? "path") (g.has "pretty")
  | "help" :: rest => .error (helpOn ("config" :: rest))
  | "--help" :: _ => .error .help
  | argument :: _ => .error (if argument.startsWith "-h" then .help else .rejected)
  | [] => .error .rejected

/-- The command that arguments ask for. -/
def ofArguments : List String → Except Refusal Command
  | "classify" :: rest => do
    let g ← Given.scan [{ name := "json", taken := .nothing }] true rest {}
    if g.operands.isEmpty then .error .rejected else return .classify g.operands (g.has "json")
  | "evaluate" :: rest => do
    let g ← Given.scan
      [{ name := "entitlements" }, { name := "objects" }, { name := "notes" },
        { name := "level", taken := .text }, { name := "ntk", taken := .text, repeats := true },
        { name := "relto", taken := .text, repeats := true },
        { name := "pretty", taken := .nothing }] false rest {}
    return .evaluate
      { entitlements := ← g.required "entitlements", objects := ← g.required "objects"
        notes := g.value? "notes", level := g.value? "level", needToKnow := g.values "ntk"
        relTo := g.values "relto", indented := g.has "pretty" }
  | "banner" :: rest => do
    let g ← Given.scan
      [{ name := "objects" }, { name := "notes" }, { name := "object", taken := .text }]
      false rest {}
    return .banner (← g.required "objects") (g.value? "notes") (g.value? "object")
  | "catalog" :: rest => do
    let g ← Given.scan
      [{ name := "definition" }, { name := "pretty", taken := .nothing }] false rest {}
    return .catalog (← g.required "definition") (g.has "pretty")
  | "config" :: rest => ofSettingsArguments rest
  | "help" :: rest => .error (helpOn rest)
  | "--help" :: _ => .error .help
  | "--version" :: _ => .error .version
  | argument :: _ =>
    .error <|
      if argument.startsWith "-h" then .help
      else if argument.startsWith "-V" then .version
      else .rejected
  | [] => .error .rejected

end Clearance.Command
