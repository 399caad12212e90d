import AppLauncher.Http.Status
import AppLauncher.Url.Fault

/-!
What can fail. A failure keeps its cause; its wording is said in one place, below.
-/
namespace AppLauncher

/-- What a configuration may not say. -/
inductive ConfigFault where
  | notHttp (url : String)
  | blankName
  | noAddress (text : String) (fault : Url.Fault)
  | noPath (text : String)
deriving DecidableEq, Repr

/-- What a user may not ask for. -/
inductive InputFault where
  | unknownHelp (id : String)
  | blankRegulation
  | blankApplication
  | noCriteria (label : String)
  | noSelectionPrompt
  | noConfirmationPrompt
deriving DecidableEq, Repr

/-- Where an exchange with the backend broke off. -/
inductive HttpFault where
  /-- The token cannot stand in a header, and nothing was sent. -/
  | badHeader
  | noAnswer (url : String)
  | badBody
deriving DecidableEq, Repr

/-- What the file system answers. -/
inductive FileFault where
  | missing
  | notDirectory
  | isDirectory
  | alreadyThere
  | notText
  | other (message : String)
deriving DecidableEq, Repr

inductive Failure where
  | configNotFound (path : String)
  | invalidConfig (fault : ConfigFault)
  | invalidInput (fault : InputFault)
  /-- The backend refused a request. -/
  | refused (path : String) (status : Nat) (body : String)
  /-- The saved results could not be loaded to look one up. -/
  | notLoaded (cause : Failure)
  | notPersisted
  | noSelection
  | notFound (what : String)
  | http (fault : HttpFault)
  | badJson
  | badToml
  | file (fault : FileFault)
deriving DecidableEq, Repr

def ConfigFault.message : ConfigFault → String
  | notHttp url => s!"api.base_url must be an http(s) URL, got '{url}'"
  | blankName => "branding.app_name must not be empty"
  | noAddress text fault => s!"Invalid base URL '{text}': " ++ fault.message
  | noPath text => s!"Base URL '{text}' cannot carry a path"

def InputFault.message : InputFault → String
  | unknownHelp id => s!"No help section '{id}'"
  | blankRegulation => "regulation text must not be empty"
  | blankApplication => "application text must not be empty"
  | noCriteria label => s!"selection '{label}' has no criteria"
  | noSelectionPrompt => "Selection cancelled: IO error: not a terminal"
  | noConfirmationPrompt => "Confirmation cancelled: IO error: not a terminal"

def HttpFault.message : HttpFault → String
  | badHeader => "builder error"
  | noAnswer url => s!"error sending request for url ({url})"
  | badBody => "error decoding response body"

def FileFault.message : FileFault → String
  | missing => "No such file or directory (os error 2)"
  | notDirectory => "Not a directory (os error 20)"
  | isDirectory => "Is a directory (os error 21)"
  | alreadyThere => "File exists (os error 17)"
  | notText => "stream did not contain valid UTF-8"
  | other message => message

namespace Failure

/-- The kind of a failure, as far as the user is told. -/
def heading : Failure → String
  | configNotFound _ => "Config file not found: "
  | invalidConfig _ => "Invalid config: "
  | invalidInput _ => "Invalid input: "
  | refused .. => "API error: "
  | notLoaded _ => "API error: "
  | notPersisted => "Subsidy result has not been saved yet"
  | noSelection => "No subsidy criteria selected"
  | notFound _ => "Subsidy result not found: "
  | http _ => "HTTP error: "
  | badJson => "JSON error"
  | badToml => "TOML parse error"
  | file _ => "IO error: "

/-- How a failure begins where it is the cause of another one. What the backend reported stands
there without its heading. -/
def innerHeading : Failure → String
  | refused .. => ""
  | notLoaded _ => ""
  | other => other.heading

def details : Failure → String
  | configNotFound path => path
  | invalidConfig fault => fault.message
  | invalidInput fault => fault.message
  | refused path status body => s!"{path} returned {Http.statusText status}: {body}"
  | notLoaded cause => "could not load saved criteria: " ++ cause.innerHeading ++ details cause
  | notFound what => what
  | http fault => fault.message
  | file fault => fault.message
  | _ => ""

/-- What a failure says to the user. -/
def message (failure : Failure) : String := failure.heading ++ failure.details

end Failure

end AppLauncher
