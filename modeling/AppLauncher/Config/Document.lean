import AppLauncher.Config.Basic
import AppLauncher.Toml.Printer
import AppLauncher.Toml.Reader

/-!
Configuration documents. A document has a section for each group of settings. A section is a table,
or an array of its settings in their own order; whatever else a document holds is not looked at.
-/
namespace AppLauncher.Config

/-- The settings of a section, by name. -/
abbrev Settings := String → Option Toml

/-- The settings of a section. A time has no settings. -/
def settings? (names : List String) : Toml → Option Settings
  | .table fields => some fun name => fields.lookup name
  | .array items => some fun name => (names.zip items).lookup name
  | .moment _ => some fun _ => none
  | _ => none

/-- A setting that has a default. -/
def setting {α : Type} (default : α) (read : Toml → Option α) : Option Toml → Option α
  | none => some default
  | some value => read value

def text? : Toml → Option String
  | .string text => some text
  | _ => none

/-- A table or array with nothing in it. -/
def isEmpty : Toml → Bool
  | .table [] => true
  | .array [] => true
  | _ => false

/-- A policy by its name, or by a table that has the name and nothing else to say. -/
def policy? : Toml → Option EmptyMatch
  | .string name => EmptyMatch.ofName? name
  | .table [(name, value)] => if isEmpty value then EmptyMatch.ofName? name else none
  | _ => none

/-- A section read over the configuration so far. -/
def readSection? (names : List String) (read : Settings → Config → Option Config)
    (config : Config) : Option Toml → Option Config
  | none => some config
  | some value => do read (← settings? names value) config

def general? (settings : Settings) (config : Config) : Option Config := do
  let logLevel ← setting config.logLevel text? (settings "log_level")
  return { config with logLevel }

def api? (settings : Settings) (config : Config) : Option Config := do
  let baseUrl ← setting config.baseUrl text? (settings "base_url")
  let tokenPath ← setting none (fun value => (text? value).map some) (settings "token_path")
  return { config with baseUrl, tokenPath }

def models? (settings : Settings) (config : Config) : Option Config := do
  let emptyMatch ← setting config.emptyMatch policy? (settings "empty_match_policy")
  return { config with emptyMatch }

def branding? (settings : Settings) (config : Config) : Option Config := do
  let appName ← setting config.appName text? (settings "app_name")
  return { config with appName }

/-- The section of the backend. An array of its settings has both of them. -/
def apiSection? (config : Config) : Option Toml → Option Config
  | some (.array items) =>
    if items.length < 2 then none
    else readSection? ["base_url", "token_path"] api? config (some (.array items))
  | value => readSection? ["base_url", "token_path"] api? config value

/-- The configuration of a document, over the defaults. -/
def ofToml? (document : Toml) : Option Config := do
  let config ← readSection? ["log_level"] general? {} (document.field? "general")
  let config ← apiSection? config (document.field? "api")
  let config ← readSection? ["empty_match_policy"] models? config (document.field? "models")
  readSection? ["app_name"] branding? config (document.field? "branding")

/-- The configuration that a text writes, checked. -/
def read (text : String) : Except Failure Config :=
  match (Toml.read? text).bind ofToml? with
  | none => .error .badToml
  | some config => config.checked

/-! ### Written form -/

def sectionLine (name : String) : List Char := '[' :: name.toList ++ [']', '\n']

def settingLine (name value : String) : List Char :=
  name.toList ++ [' ', '=', ' '] ++ Toml.Quoted.quoted value.toList ++ ['\n']

/-- The document of a configuration: its sections with an empty line between them. -/
def chars (config : Config) : List Char :=
  sectionLine "general" ++ settingLine "log_level" config.logLevel ++ ['\n'] ++
  sectionLine "api" ++ settingLine "base_url" config.baseUrl ++
  (match config.tokenPath with
    | none => []
    | some path => settingLine "token_path" path) ++ ['\n'] ++
  sectionLine "models" ++ settingLine "empty_match_policy" config.emptyMatch.name ++ ['\n'] ++
  sectionLine "branding" ++ settingLine "app_name" config.appName

def render (config : Config) : String := String.ofList config.chars

end AppLauncher.Config
