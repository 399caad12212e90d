import AppLauncher.Cli.Command
import AppLauncher.Cli.Report
import AppLauncher.Cli.Settings
import AppLauncher.Subsidy.Service
import AppLauncher.Subsidy.Store
import AppLauncher.Subsidy.Token

/-!
The subsidy commands. Each call on the store is followed to its end before the next one starts, and
the token is read again for every request.
-/
namespace AppLauncher.Cli

/-- A backend, and the file that holds the token for it. -/
structure Client (m : Type → Type) where
  host : Host m
  service : Service
  tokenFile : String

/-- A part of a session with a store. -/
abbrev Work (m : Type → Type) := StateT Store (Session m)

namespace Client

variable {m : Type → Type} [Monad m]

def ofConfig (host : Host m) (config : Config) : Session m (Client m) := do
  let tokenFile ← (Settings.tokenFile host config : m String)
  let service ← Session.ofExcept (Service.ofText config.baseUrl)
  return { host, service, tokenFile }

/-- The token of this moment. -/
def token? (client : Client m) : m (Option String) := do
  match ← client.host.readFile client.tokenFile with
  | .ok bytes => return Token.ofBytes? bytes
  | .error _ => return none

/-- Puts an operation to the backend. -/
def ask (client : Client m) (operation : Operation) : m (Except Failure operation.Answer) := do
  match operation.request client.service (← client.token?) with
  | .error failure => return .error failure
  | .ok request => return operation.outcome request.url (← client.host.send request)

/-- Makes a call and follows it to its end. -/
def perform {α : Type} (client : Client m) (call : Call α) : Work m α := do
  let (store, rest) := call (← get)
  set store
  rest.follow (m := Work m) (fun operation => (client.ask operation : m _)) fun change =>
    modify change

/-- Makes a call that has to succeed. -/
def need {α : Type} (client : Client m) (call : Call (Except Failure α)) : Work m α := do
  (Session.ofExcept (← client.perform call) : Session m α)

def print (client : Client m) (lines : Report.Lines) : Work m Unit :=
  (Session.printLines client.host lines : Session m Unit)

def readText (client : Client m) (path : String) : Work m String :=
  (Session.readText client.host path : Session m String)

def fail {α : Type} (failure : Failure) : Work m α := (throw failure : Session m α)

/-! ### Choosing a set -/

/-- The saved sets, which have to be known to choose one. -/
def load (client : Client m) : Work m (List CriteriaSet) := do
  match ← client.perform Store.refresh with
  | .ok sets => return sets
  | .error failure => fail (.notLoaded failure)

/-- The first saved set with an id. -/
def find (client : Client m) (id : String) : Work m CriteriaSet := do
  let _ ← client.load
  match (← get).value.find? id with
  | some set => return set
  | none => fail (.notFound id)

/-- Lets the user choose a saved set, which takes a terminal. -/
def choose (client : Client m) : Work m CriteriaSet := do
  let sets ← client.load
  if sets.isEmpty then fail (.notFound "no saved subsidy criteria")
  else fail (.invalidInput .noSelectionPrompt)

/-- The set that the user means. -/
def resolve (client : Client m) : Option String → Work m CriteriaSet
  | some id => client.find id
  | none => client.choose

/-- Saves a set under the time and with the fresh id of this moment. -/
def save (client : Client m) (set : CriteriaSet) : Work m CriteriaSet := do
  let now ← (client.host.now : m String)
  let fresh ← (client.host.freshId : m String)
  client.need (Store.save now fresh set)

/-! ### The commands -/

def list (client : Client m) : Work m Unit := do
  let sets ← client.perform Store.list
  client.print (if sets.isEmpty then ["No saved subsidy criteria."] else Report.sets sets)

/-- Saves the set in a file, under another name if one is given. -/
def saveFile (client : Client m) (file : String) (name : Option String) : Work m Unit := do
  match CriteriaSet.readDraft? (← client.readText file) with
  | none => fail .badJson
  | some draft =>
    let saved ← client.save { draft with name := name <|> draft.name }
    client.print ["Saved " ++ saved.label ++ " (ID: " ++ saved.savedId.getD "" ++ ")"]

/-- Extracts the criteria of the regulation in a file, and saves them if wanted. -/
def extract (client : Client m) (file : String) (model : Option String) (saves : Bool)
    (name : Option String) : Work m Unit := do
  let text ← client.readText file
  let draft ← client.need (Store.extract text model)
  client.print (Report.set draft)
  if saves then
    let saved ← client.save { draft with name }
    client.print ["\nSaved (ID: " ++ saved.savedId.getD "" ++ ")"]

/-- Selects the set to assess by: the one with an id, else the last selection of the user, else that
of the organisation. -/
def selectFor (client : Client m) : Option String → Work m (Option CriteriaSet)
  | some id => do
    let set ← client.find id
    modify fun store => (Store.select (some set) false store).1
    return some set
  | none => do
    match ← client.perform Store.loadLast with
    | some set => return some set
    | none => client.perform Store.loadGlobal

/-- Assesses the application in a file. -/
def assess (client : Client m) (file : String) (criteria model : Option String)
    (isComplete : Bool) : Work m Unit := do
  let text ← client.readText file
  match ← client.selectFor criteria with
  | some set => client.print [Report.assessedBy set]
  | none => pure ()
  if isComplete then
    client.print (Report.completeAssessment (← client.need (Store.assessCompletely text model)))
  else client.print (Report.assessment (← client.need (Store.assess text model)))

def delete (client : Client m) (id : Option String) : Work m Unit := do
  let id ← match id with
    | some id => pure id
    | none => do pure ((← client.choose).savedId.getD "")
  client.need (Store.delete id)
  client.print ["Deleted " ++ id]

/-- What is said after a set of so many ids was to be deleted. -/
def clearedText (count : Nat) (failed : List String) : String :=
  "Deleted " ++ toString (count - failed.length) ++ " of " ++ toString count ++
    "; still on the server: " ++ ", ".intercalate failed

/-- Deletes every saved set. Without a confirmation given beforehand the user is asked, which takes
a terminal. -/
def clear (client : Client m) (isConfirmed : Bool) : Work m Unit := do
  let sets ← client.perform Store.list
  if sets.isEmpty then client.print ["Nothing to delete."]
  else if !isConfirmed then fail (.invalidInput .noConfirmationPrompt)
  else
    let failed ← client.perform Store.clearAll
    if failed.isEmpty then
      client.print ["Deleted " ++ toString sets.length ++ " saved criteria."]
    else (client.host.warn (clearedText sets.length failed ++ "\n") : m Unit)

/-- Selects a saved set, and tells the backend of it unless that is not wanted. -/
def select (client : Client m) (id : Option String) (isLocal : Bool) : Work m Unit := do
  let set ← client.resolve id
  client.perform (Store.selecting (some set) (!isLocal))
  client.print ["Selected " ++ set.label]

/-- Shows a selection, or says that there is none. -/
def showSelection (client : Client m) (call : Call (Option CriteriaSet)) (none : String) :
    Work m Unit := do
  match ← client.perform call with
  | some set => client.print (Report.set set)
  | .none => client.print [none]

def setGlobal (client : Client m) (id : Option String) : Work m Unit := do
  let set ← client.resolve id
  client.need (Store.setGlobal set)
  client.print [set.label ++ " is now the organisation-wide selection"]

def run (client : Client m) : SubsidyCommand → Work m Unit
  | .list => client.list
  | .display id => do client.print (Report.set (← client.resolve id))
  | .save file name => client.saveFile file name
  | .extract file model saves name => client.extract file model saves name
  | .assess file criteria model isComplete => client.assess file criteria model isComplete
  | .delete id => client.delete id
  | .clear isConfirmed => client.clear isConfirmed
  | .select id isLocal => client.select id isLocal
  | .selection => client.showSelection Store.loadLast "No selection found."
  | .global => client.showSelection Store.loadGlobal "No organisation-wide selection found."
  | .setGlobal id => client.setGlobal id

end Client

end AppLauncher.Cli
