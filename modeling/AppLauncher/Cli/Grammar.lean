import AppLauncher.Cli.Command

/-!
The grammar of the command line. A branch has commands to choose from; a leaf has options and at
most one operand, and says which command they make up. Some options are known at every level.
-/
namespace AppLauncher.Cli

/-- What is wrong with a command line, or what it asks for in place of a command. -/
inductive UsageFault where
  | help
  | version
  /-- Nothing was said where a command is needed. -/
  | nothingSaid
  | missingCommand
  | unknownCommand
  | unknownArgument
  /-- An option without a value, or with one that it cannot have. -/
  | badValue
  | repeated
  | missingArgument
  /-- A value for an option that takes none. -/
  | unwantedValue
deriving DecidableEq, Repr

namespace UsageFault

/-- Whether the user asked for a text in place of a command. -/
def isRequest : UsageFault → Bool
  | help => true
  | version => true
  | _ => false

/-- What the user is told. -/
def message : UsageFault → String
  | version => "govchat-launcher 0.1.0"
  | unknownCommand => "error: unrecognized subcommand"
  | unknownArgument => "error: unexpected argument"
  | badValue => "error: a value is required"
  | repeated => "error: an argument cannot be used multiple times"
  | missingArgument => "error: a required argument was not provided"
  | unwantedValue => "error: unexpected value"
  | missingCommand => "error: a subcommand is required but one was not provided"
  | _ => "Usage: govchat-launcher [OPTIONS] <apps|manual|models|subsidy|config>"

end UsageFault

/-- What an option does with what is said for it. -/
inductive Action where
  /-- It takes one value. A path is not empty; some options may be given several times. -/
  | value (isPath isRepeatable : Bool)
  | flag
  /-- It counts how often it is given. -/
  | count
  | help
  | version
deriving DecidableEq, Repr

/-- An option or operand. An operand has neither a long nor a short form. -/
structure Parameter where
  name : String
  long : Option String := none
  short : Option Char := none
  action : Action
deriving DecidableEq, Repr

def Parameter.takesValue (parameter : Parameter) : Bool :=
  match parameter.action with
  | .value .. => true
  | _ => false

/-- The values that were given, by the name of the parameter, in order. -/
abbrev Given := List (String × List String)

namespace Given

def all (given : Given) (name : String) : List String :=
  given.flatMap fun entry => if entry.1 = name then entry.2 else []

def value? (given : Given) (name : String) : Option String := (given.all name).getLast?

def has (given : Given) (name : String) : Bool := given.any (·.1 == name)

end Given

inductive Grammar where
  | branch (commands : List (String × Grammar))
  /-- The command is missing if an argument that it needs is not given. -/
  | leaf (options : List Parameter) (operand : Option Parameter) (make : Given → Option Command)

namespace Grammar

def option (name : String) (short : Option Char := none) : Parameter :=
  { name, long := some name, short, action := .value false false }

def pathOption (name : String) (short : Option Char := none) : Parameter :=
  { name, long := some name, short, action := .value true false }

def flag (name : String) (short : Option Char := none) : Parameter :=
  { name, long := some name, short, action := .flag }

def operand (name : String) : Parameter := { name, action := .value false false }

def pathOperand (name : String) : Parameter := { name, action := .value true false }

/-- The options of every level. -/
def everywhere : List Parameter :=
  [ { name := "verbose", long := some "verbose", short := some 'v', action := .count },
    pathOption "config",
    { name := "help", long := some "help", short := some 'h', action := .help } ]

/-- The options of the command line as a whole. -/
def onlyAtTop : List Parameter :=
  [{ name := "version", long := some "version", short := some 'V', action := .version }]

/-! ### The commands -/

def apps : Grammar :=
  .leaf [option "user" (some 'u'), flag "all"] none fun given =>
    some (.apps (given.value? "user") (given.has "all"))

def manual : Grammar :=
  .leaf [flag "raw"] (some (operand "section")) fun given =>
    some (.manual (given.value? "section") (given.has "raw"))

def models : Grammar :=
  .leaf
    [ pathOption "file" (some 'f'),
      { name := "route", long := some "route", short := some 'r', action := .value false true } ]
    none fun given => do return .models (← given.value? "file") (given.all "route")

/-- A command about a saved set, which may be left to choose. -/
def aboutSet (make : Option String → SubsidyCommand) : Grammar :=
  .leaf [] (some (operand "id")) fun given => some (.subsidy (make (given.value? "id")))

def plain (command : Command) : Grammar := .leaf [] none fun _ => some command

def save : Grammar :=
  .leaf [option "name" (some 'n')] (some (pathOperand "file")) fun given => do
    return .subsidy (.save (← given.value? "file") (given.value? "name"))

def extract : Grammar :=
  .leaf [option "model" (some 'm'), flag "save", option "name" (some 'n')]
    (some (pathOperand "file")) fun given => do
      return .subsidy (.extract (← given.value? "file") (given.value? "model") (given.has "save")
        (given.value? "name"))

def assess : Grammar :=
  .leaf [option "criteria" (some 'c'), option "model" (some 'm'), flag "complete"]
    (some (pathOperand "file")) fun given => do
      return .subsidy (.assess (← given.value? "file") (given.value? "criteria")
        (given.value? "model") (given.has "complete"))

def clear : Grammar :=
  .leaf [flag "yes" (some 'y')] none fun given => some (.subsidy (.clear (given.has "yes")))

def select : Grammar :=
  .leaf [flag "no-persist"] (some (operand "id")) fun given =>
    some (.subsidy (.select (given.value? "id") (given.has "no-persist")))

def subsidy : Grammar :=
  .branch
    [ ("list", plain (.subsidy .list)), ("show", aboutSet .display), ("save", save),
      ("extract", extract), ("assess", assess), ("delete", aboutSet .delete), ("clear", clear),
      ("select", select), ("selection", plain (.subsidy .selection)),
      ("global", plain (.subsidy .global)), ("set-global", aboutSet .setGlobal) ]

def config : Grammar :=
  .branch
    [ ("show", plain (.config .display)), ("path", plain (.config .path)),
      ("init", plain (.config .init)) ]

/-- The whole command line. -/
def top : Grammar :=
  .branch
    [ ("apps", apps), ("manual", manual), ("models", models), ("subsidy", subsidy),
      ("config", config) ]

/-- The parameters that are known at a level. -/
def options (isTop : Bool) (grammar : Grammar) : List Parameter :=
  (match grammar with
    | branch _ => []
    | leaf options _ _ => options) ++ everywhere ++ if isTop then onlyAtTop else []

def operand? : Grammar → Option Parameter
  | branch _ => none
  | leaf _ operand _ => operand

/-- The commands of a branch, apart from `help`. -/
def commands : Grammar → List (String × Grammar)
  | branch commands => commands
  | leaf .. => []

def isBranch : Grammar → Bool
  | branch _ => true
  | leaf .. => false

end Grammar

end AppLauncher.Cli
