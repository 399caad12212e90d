import AppLauncher.Cli.Arguments
import AppLauncher.Cli.Client
import AppLauncher.Model.Board
import AppLauncher.Model.Listing

/-!
Running commands.
-/
namespace AppLauncher.Cli

variable {m : Type → Type} [Monad m]

/-- Shows the apps that a user may open, or all of them. -/
def runApps (host : Host m) (user : Option String) (all : Bool) : Session m Unit := do
  let user : User ← match user with
    | none => pure .anonymous
    | some text =>
      match Json.read? text with
      | some attributes => pure ⟨attributes⟩
      | none => throw .badJson
  Session.printLines host (if all then Report.allApps user else Report.permittedApps user)

/-- Shows a part of the manual, or its contents. -/
def runManual (host : Host m) (config : Config) (id : Option String) (raw : Bool) :
    Session m Unit := do
  match id with
  | none => Session.printLines host (Report.contents config.appName)
  | some id =>
    match Help.find? id Help.manual with
    | some found => Session.printLines host (Report.helpEntry config.appName raw found.entry)
    | none => throw (.invalidInput (.unknownHelp id))

/-- What is shown for routes that are followed one after the other. -/
def followRoutes (board : Board) : List String → Report.Lines
  | [] => []
  | route :: routes =>
    let (board, context) := board.follow route
    Report.routeModels route context board.offered ++ followRoutes board routes

/-- Shows what the contexts of routes offer, or that of the first screen. -/
def runModels (host : Host m) (config : Config) (file : String) (routes : List String) :
    Session m Unit := do
  match Model.readList (← Session.readText host file) with
  | .error failure => throw failure
  | .ok models =>
    Session.printLines host ["Loaded " ++ toString models.length ++ " models"]
    let board := Board.putModels { policy := config.emptyMatch } (some models)
    Session.printLines host
      (if routes.isEmpty then Report.contextModels board.context.value board.offered
        else followRoutes board routes)

def runSubsidy (host : Host m) (config : Config) (command : SubsidyCommand) : Session m Unit := do
  let client ← Client.ofConfig host config
  let _ ← (client.run command).run Store.new

/-- Shows the configuration, or where it is, or makes the directories that this program uses. -/
def runConfig (host : Host m) (config : Config) (named : Option String) :
    ConfigCommand → Session m Unit
  | .display => Session.printLines host [config.render]
  | .path => do
    let path ← (host.configPath : m String)
    Session.printLines host [named.getD path]
  | .init => do
    Session.ofFile (host.makeDirectory (← (host.configDirectory : m String)))
    Session.ofFile (host.makeDirectory (← (host.dataDirectory : m String)))
    let path ← (host.configPath : m String)
    let tokenFile ← (Settings.tokenFile host config : m String)
    Session.printLines host (Report.initialized path tokenFile config)

/-- Carries out an invocation under the configuration that it finds. -/
def Invocation.run (host : Host m) (invocation : Invocation) : Session m Unit := do
  let config ← Settings.load host invocation.config
  match invocation.command with
  | .apps user all => runApps host user all
  | .manual id raw => runManual host config id raw
  | .models file routes => runModels host config file routes
  | .subsidy command => runSubsidy host config command
  | .config command => runConfig host config invocation.config command

end AppLauncher.Cli
