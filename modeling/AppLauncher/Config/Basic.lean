import AppLauncher.Failure
import AppLauncher.Model.Offer
import AppLauncher.Text.Blank
import AppLauncher.Text.Search

/-!
The configuration. Every setting has a default; the backend has to be found over HTTP, and the
product has to have a name.
-/
namespace AppLauncher

structure Config where
  logLevel : String := "info"
  baseUrl : String := "http://localhost:8080"
  /-- The file that holds the token, if it is not the one in the data directory. -/
  tokenPath : Option String := none
  emptyMatch : EmptyMatch := .failClosed
  appName : String := "GovChat-NL"
deriving DecidableEq, Inhabited, Repr

namespace Config

/-- Whether an address names a web server, as far as its beginning tells. -/
def isHttp (url : String) : Bool :=
  Text.startsWith "http://" (Text.trim url) || Text.startsWith "https://" (Text.trim url)

/-- A configuration that can be used. -/
def checked (config : Config) : Except Failure Config :=
  if !isHttp config.baseUrl then .error (.invalidConfig (.notHttp config.baseUrl))
  else if Text.isBlank config.appName then .error (.invalidConfig .blankName)
  else .ok config

/-- What the environment says instead of a configuration. -/
structure Overrides where
  baseUrl : Option String := none
  tokenPath : Option String := none
  appName : Option String := none
deriving DecidableEq, Repr

/-- The configuration with the settings that the environment gives. -/
def overridden (overrides : Overrides) (config : Config) : Config :=
  { config with
    baseUrl := overrides.baseUrl.getD config.baseUrl
    tokenPath := overrides.tokenPath <|> config.tokenPath
    appName := overrides.appName.getD config.appName }

/-- The configuration to go by: that with the settings of the environment, which is checked too. -/
def withOverrides (overrides : Overrides) (config : Config) : Except Failure Config :=
  (config.overridden overrides).checked

/-- The file that holds the token. -/
def tokenFile (config : Config) (default : String) : String := config.tokenPath.getD default

end Config

end AppLauncher
