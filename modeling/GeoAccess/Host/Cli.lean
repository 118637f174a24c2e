import GeoAccess.Request
import GeoAccess.Text.Numeral

/-!
# The command line

`geoacl [--config FILE] [--rules FILE] COMMAND [OPTIONS]` with the commands

- `access` and `matching`: a data request (`--user`, `--role` repeatable,
  `--instance`, `--source-address`, `--service`, `--request`, `--subfield`,
  `--workspace`, `--layer`);
- `admin`: an admin request (`--user`, `--role` repeatable, `--instance`,
  `--workspace`);
- `rules` and `admin-rules`: a listing (`--page-size N`, `--cursor ID`);
- `help [COMMAND]`, and `-h`/`--help` everywhere.

The arguments are read left to right:

- An option's value is the next argument, or follows `=`. An argument that
  starts with `-` is never a value, so `--cursor -1` is an unknown flag.
- At the top, an argument that names a command starts that command, unless
  an option still awaits its value: then it is that value. What follows a
  command belongs to the command.
- An option is settled when the next option starts or the arguments end:
  then a missing value is refused, an option given twice is refused (only
  `--role` may repeat), and the value is checked (numbers must be unsigned
  decimals that fit in 64 bits). An unknown flag or stray argument is refused
  at once, leaving the unsettled option unchecked.
- No command at all asks for the help when nothing else was given, and is
  refused as missing otherwise.

Each refusal is named by its kind (`UnknownArgument`, `InvalidValue`, ...).
-/

namespace GeoAccess.Host

/-- Why a command line was refused, or that it asked for help. -/
inductive ArgError where
  | unknownArgument
  | invalidValue
  | valueValidation
  | displayHelp
  | invalidSubcommand
  | displayHelpOnMissing
  | missingSubcommand
  | argumentConflict
  | tooManyValues
  deriving DecidableEq, Repr

/-- The name of a refusal's kind. -/
def ArgError.kind : ArgError → String
  | .unknownArgument => "UnknownArgument"
  | .invalidValue => "InvalidValue"
  | .valueValidation => "ValueValidation"
  | .displayHelp => "DisplayHelp"
  | .invalidSubcommand => "InvalidSubcommand"
  | .displayHelpOnMissing => "DisplayHelpOnMissingArgumentOrSubcommand"
  | .missingSubcommand => "MissingSubcommand"
  | .argumentConflict => "ArgumentConflict"
  | .tooManyValues => "TooManyValues"

/-- Paging of a listing. -/
structure ListArgs where
  pageSize : Option Nat := none
  cursor : Option Nat := none
  deriving DecidableEq, Repr

/-- What a command line asks. -/
inductive Command where
  | access (q : AccessRequest)
  | admin (q : AdminAccessRequest)
  | matching (q : AccessRequest)
  | rules (l : ListArgs)
  | adminRules (l : ListArgs)
  deriving Repr

/-- A command line read. -/
structure Invocation where
  config : Option String := none
  rules : Option String := none
  command : Command
  deriving Repr

/-- What an option takes. -/
inductive OptionKind where
  /-- A text, once. -/
  | text
  /-- A text, as often as given. -/
  | repeated
  /-- An unsigned number, once. -/
  | number
  deriving DecidableEq, Repr

/-- The options of a command, by long name; `help` takes no value. -/
def optionsOf : Option String → List (String × OptionKind)
  | none => [("config", .text), ("rules", .text)]
  | some "access" | some "matching" =>
    [("user", .text), ("role", .repeated), ("instance", .text), ("source-address", .text),
     ("service", .text), ("request", .text), ("subfield", .text), ("workspace", .text),
     ("layer", .text)]
  | some "admin" => [("user", .text), ("role", .repeated), ("instance", .text), ("workspace", .text)]
  | some _ => [("page-size", .number), ("cursor", .number)]

/-- The commands, and `help`. -/
def commandNames : List String := ["access", "admin", "matching", "rules", "admin-rules", "help"]

/-- The state of reading one command's arguments. -/
structure ArgState where
  /-- Settled options and their values, in the order given. -/
  matched : List (String × List String) := []
  /-- The option not yet settled, with the values it got. -/
  pending : Option (String × List String) := none
  /-- Whether the pending option still awaits its value. -/
  awaiting : Bool := false
  /-- Whether `--` has been passed. -/
  trailing : Bool := false
  deriving Repr

namespace ArgState

/-- Settles an option with its values: a missing value, a repeat and a bad
number are refused, in that order. -/
def settle (s : ArgState) (kinds : List (String × OptionKind)) (name : String)
    (values : List String) : Except ArgError ArgState :=
  let kind := (kinds.lookup name).getD .text
  if values.isEmpty then .error .invalidValue
  else if kind != .repeated && (s.matched.lookup name).isSome then .error .argumentConflict
  else if kind == .number &&
      values.any (fun v => (Numeral.readUnsigned Numeral.u64Max v).toOption.isNone) then
    .error .valueValidation
  else
    let matched := match s.matched.lookup name with
      | some old => s.matched.map fun (k, vs) => if k == name then (k, old ++ values) else (k, vs)
      | none => s.matched ++ [(name, values)]
    .ok { s with matched }

/-- Settles the pending option, if any. -/
def resolve (s : ArgState) (kinds : List (String × OptionKind)) : Except ArgError ArgState :=
  match s.pending with
  | none => .ok s
  | some (name, values) => { s with pending := none, awaiting := false }.settle kinds name values

/-- The single value of an option. -/
def text (s : ArgState) (name : String) : Option String :=
  (s.matched.lookup name).bind (·.head?)

/-- The values of a repeatable option. -/
def texts (s : ArgState) (name : String) : List String := (s.matched.lookup name).getD []

/-- The number an option gave. -/
def number (s : ArgState) (name : String) : Option Nat :=
  (s.text name).bind fun v => (Numeral.readUnsigned Numeral.u64Max v).toOption

end ArgState

/-- Reads the arguments after `help`: at most one, naming a command; then
help is shown. -/
def helpRequest : List String → ArgError
  | [] => .displayHelp
  | [a] => if a ∈ commandNames then .displayHelp else .invalidSubcommand
  | _ :: _ :: _ => .invalidSubcommand

/-- How reading a command's arguments ended: with the arguments settled, or,
at the top, at a command with the arguments after it. -/
inductive ArgStop where
  | done (s : ArgState)
  | command (s : ArgState) (name : String) (rest : List String)

/-- Reads the arguments of one command (`none` is the top). -/
def readArgs (cmd : Option String) : List String → ArgState → Except ArgError ArgStop
  | [], s => .ok (.done s)
  | a :: rest, s =>
    let kinds := optionsOf cmd
    let stray : Except ArgError ArgStop :=
      .error (if cmd.isNone then .invalidSubcommand else .unknownArgument)
    if s.trailing then
      if cmd.isNone && a ∈ commandNames then .error .unknownArgument else stray
    else if cmd.isNone && !s.awaiting && a ∈ commandNames then
      if a == "help" then .error (helpRequest rest) else .ok (.command s a rest)
    else if a == "--" then readArgs cmd rest { s with trailing := true }
    else if a.startsWith "--" then
      let body := (a.drop 2).toString
      let (name, attached) := match body.splitOn "=" with
        | [n] => (n, none)
        | n :: vs => (n, some ("=".intercalate vs))
        | [] => (body, none)
      if name == "help" then
        match attached with
        | some _ => .error .tooManyValues
        | none => do
          let _ ← s.resolve kinds
          throw .displayHelp
      else if (kinds.lookup name).isNone then .error .unknownArgument
      else
        match attached with
        | some v => do
          let s ← s.resolve kinds
          let s ← s.settle kinds name [v]
          readArgs cmd rest s
        | none => do
          let s ← s.resolve kinds
          readArgs cmd rest { s with pending := some (name, []), awaiting := true }
    else if a.startsWith "-" && a.length > 1 then
      if (a.drop 1).startsWith "h" then do
        let _ ← s.resolve kinds
        throw .displayHelp
      else .error .unknownArgument
    else if s.awaiting then
      match s.pending with
      | some (name, vs) => readArgs cmd rest { s with pending := some (name, vs ++ [a]), awaiting := false }
      | none => stray
    else stray

/-- A data request from the options read. -/
def requestOf (s : ArgState) : AccessRequest :=
  { user := s.text "user", roles := TextSet.ofList (s.texts "role"),
    instanceName := s.text "instance", sourceAddress := s.text "source-address",
    service := s.text "service", request := s.text "request", subfield := s.text "subfield",
    workspace := s.text "workspace", layer := s.text "layer" }

/-- An admin request from the options read. -/
def adminRequestOf (s : ArgState) : AdminAccessRequest :=
  { user := s.text "user", roles := TextSet.ofList (s.texts "role"),
    instanceName := s.text "instance", workspace := s.text "workspace" }

/-- The paging from the options read. -/
def listOf (s : ArgState) : ListArgs := { pageSize := s.number "page-size", cursor := s.number "cursor" }

/-- Reads a command's arguments to the end. -/
def readCommand (name : String) (args : List String) : Except ArgError Command := do
  let stop ← readArgs (some name) args {}
  let s ← match stop with
    | .done s => s.resolve (optionsOf (some name))
    | .command s _ _ => s.resolve (optionsOf (some name))
  return match name with
    | "access" => .access (requestOf s)
    | "admin" => .admin (adminRequestOf s)
    | "matching" => .matching (requestOf s)
    | "rules" => .rules (listOf s)
    | _ => .adminRules (listOf s)

/-- Reads a command line, the program's name left out. -/
def Invocation.parse (args : List String) : Except ArgError Invocation := do
  let stop ← readArgs none args {}
  match stop with
  | .done s =>
    let s ← s.resolve (optionsOf none)
    if s.matched.isEmpty then throw .displayHelpOnMissing else throw .missingSubcommand
  | .command s name rest =>
    let command ← readCommand name rest
    let s ← s.resolve (optionsOf none)
    return { config := s.text "config", rules := s.text "rules", command }

end GeoAccess.Host
