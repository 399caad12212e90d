import AppLauncher.Cli.Host
import AppLauncher.Config.Document

/-!
Finding the configuration: in the file that the user names, or in the one at the default place,
which is written if it is not there; in both cases under the settings of the environment.
-/
namespace AppLauncher.Cli.Settings

variable {m : Type → Type} [Monad m]

/-- The configuration in a file that has to be there. -/
def loadFile (host : Host m) (path : String) : Session m Config := do
  if ← (host.isThere path : m Bool) then
    Session.ofExcept (Config.read (← Session.readText host path))
  else throw (.configNotFound path)

def saveFile (host : Host m) (config : Config) (path : String) : Session m Unit :=
  Session.ofFile (host.writeFile path config.render)

/-- The configuration at the default place. -/
def loadDefault (host : Host m) : Session m Config := do
  let path ← (host.configPath : m String)
  if ← (host.isThere path : m Bool) then loadFile host path
  else
    saveFile host {} path
    return {}

def overrides (host : Host m) : m Config.Overrides := do
  let baseUrl ← host.setting? "GOVCHAT_API_BASE_URL"
  let tokenPath ← host.setting? "GOVCHAT_TOKEN_PATH"
  let appName ← host.setting? "GOVCHAT_APP_NAME"
  return { baseUrl, tokenPath, appName }

/-- The configuration of a session. -/
def load (host : Host m) (named : Option String) : Session m Config := do
  let config ← match named with
    | some path => loadFile host path
    | none => loadDefault host
  let overrides ← (overrides host : m Config.Overrides)
  Session.ofExcept (config.withOverrides overrides)

/-- The file that holds the token. -/
def tokenFile (host : Host m) (config : Config) : m String :=
  return config.tokenFile (← host.tokenPath)

end AppLauncher.Cli.Settings
