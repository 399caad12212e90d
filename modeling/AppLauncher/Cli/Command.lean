/-!
What can be asked for on the command line.
-/
namespace AppLauncher.Cli

inductive SubsidyCommand where
  | list
  | display (id : Option String)
  | save (file : String) (name : Option String)
  | extract (file : String) (model : Option String) (saves : Bool) (name : Option String)
  | assess (file : String) (criteria : Option String) (model : Option String) (isComplete : Bool)
  | delete (id : Option String)
  | clear (isConfirmed : Bool)
  | select (id : Option String) (isLocal : Bool)
  | selection
  | global
  | setGlobal (id : Option String)
deriving DecidableEq, Repr

inductive ConfigCommand where
  | display
  | path
  | init
deriving DecidableEq, Repr

inductive Command where
  | apps (user : Option String) (all : Bool)
  | manual (id : Option String) (raw : Bool)
  | models (file : String) (routes : List String)
  | subsidy (command : SubsidyCommand)
  | config (command : ConfigCommand)
deriving DecidableEq, Repr

/-- A command with what was said beside it. -/
structure Invocation where
  command : Command
  /-- The file to read the configuration from. -/
  config : Option String := none
deriving DecidableEq, Repr

end AppLauncher.Cli
