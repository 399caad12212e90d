import AppLauncher.Failure
import AppLauncher.Json.Reader
import AppLauncher.Model.Basic

/-!
Model lists. The registry serves its models as an array, or as an object that holds the array in
its field `data`.
-/
namespace AppLauncher.Model

open Json (Outline)

/-- The models of an array, all of which have to be models. -/
def bare? : Outline → Option (List Model) := Outline.list? ofOutline?

/-- The models of an envelope, whose other fields are not looked at. -/
def enveloped? : Outline → Option (List Model)
  | .object fields => do
    let given ← Outline.record? ["data"] (.object fields)
    Outline.required bare? (given "data")
  | _ => none

/-- The models of a list. It is taken in as a whole before anybody looks at its form. -/
def listOfOutline? (outline : Outline) : Option (List Model) :=
  if outline.isKept then bare? outline <|> enveloped? outline else none

/-- The models of an array that is not taken in first, but read one model after the other. -/
def arrayOfOutline? (outline : Outline) : Option (List Model) :=
  if outline.depth ≤ Outline.deepest then bare? outline else none

/-- The models that a text lists. A text that is refused is read once more as an array, where the
place of the fault would show. -/
def readList? (text : String) : Option (List Model) := do
  let outline ← Outline.read? text
  listOfOutline? outline <|> arrayOfOutline? outline

def readList (text : String) : Except Failure (List Model) :=
  match readList? text with
  | some models => .ok models
  | none => .error .badJson

end AppLauncher.Model
