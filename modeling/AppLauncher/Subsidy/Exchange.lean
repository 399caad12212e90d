import AppLauncher.Subsidy.Criteria

/-!
What is said to the backend and what it answers, apart from assessments.
-/
namespace AppLauncher

open Json (Outline)

/-- The answer to a save. -/
structure Receipt where
  success : Option Bool := none
  id : Option String := none
  message : Option String := none
deriving DecidableEq, Repr

/-- The answer to a question about a selection. -/
structure SelectionReply where
  success : Bool := false
  hasSelection : Bool := false
  selection : Option CriteriaSet := none
  message : Option String := none
deriving DecidableEq, Repr

/-- Criteria that the backend found in a regulation. -/
structure CriteriaReply where
  criteria : List Criterion := []
  summary : Option String := none
deriving DecidableEq, Repr

/-- A regulation whose criteria are wanted. -/
structure RegulationQuery where
  text : String
  model : Option String := none
deriving DecidableEq, Repr

/-- An application to assess, with the criteria to go by. -/
structure ApplicationQuery where
  text : String
  criteria : List Criterion
  model : Option String := none
deriving DecidableEq, Repr

namespace Receipt

def ofOutline? (outline : Outline) : Option Receipt := do
  let given ← outline.record? ["success", "id", "message"]
  let success ← Outline.maybe Outline.bool? (given "success")
  let id ← Outline.maybe Outline.text? (given "id")
  let message ← Outline.maybe Outline.text? (given "message")
  return { success, id, message }

end Receipt

namespace SelectionReply

/-- The two names of the field that says whether there is a selection. -/
def fieldName (name : String) : String :=
  if name = "has_global_selection" then "has_selection" else name

def ofOutline? (outline : Outline) : Option SelectionReply := do
  let given ← outline.respelled? fieldName ["success", "has_selection", "selection", "message"]
  let success ← Outline.orElse false Outline.bool? (given "success")
  let hasSelection ← Outline.orElse false Outline.bool? (given "has_selection")
  let selection ← Outline.maybe CriteriaSet.ofOutline? (given "selection")
  let message ← Outline.maybe Outline.text? (given "message")
  return { success, hasSelection, selection, message }

/-- The selection, if the backend says that there is one. -/
def reported? (reply : SelectionReply) : Option CriteriaSet :=
  if reply.success && reply.hasSelection then reply.selection else none

end SelectionReply

namespace CriteriaReply

def ofOutline? (outline : Outline) : Option CriteriaReply := do
  let given ← outline.record? ["criteria", "summary"]
  let criteria ← Outline.orElse [] Criterion.listOfOutline? (given "criteria")
  let summary ← Outline.maybe Outline.text? (given "summary")
  return { criteria, summary }

/-- The draft that the criteria make up. -/
def draft (reply : CriteriaReply) : CriteriaSet :=
  { criteria := reply.criteria, summary := reply.summary }

end CriteriaReply

def RegulationQuery.toJson (query : RegulationQuery) : Json :=
  .record [("user_input", some (.string query.text)), ("model", query.model.map .string)]

def ApplicationQuery.toJson (query : ApplicationQuery) : Json :=
  .record
    [ ("application_text", some (.string query.text)),
      ("criteria", some (Criterion.listToJson query.criteria)),
      ("model", query.model.map .string) ]

end AppLauncher
