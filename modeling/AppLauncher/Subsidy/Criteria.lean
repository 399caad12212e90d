import AppLauncher.Json.Reader
import AppLauncher.Json.Record

/-!
Sets of subsidy criteria. A set is a draft until the backend has given it an id.
-/
namespace AppLauncher

open Json (Outline)

structure Criterion where
  id : Int
  text : String
deriving DecidableEq, Repr

structure CriteriaSet where
  criteria : List Criterion := []
  summary : Option String := none
  savedId : Option String := none
  /-- The time at which the set was saved, in RFC 3339. -/
  timestamp : Option String := none
  name : Option String := none
  isSelection : Option Bool := none
deriving DecidableEq, Inhabited, Repr

namespace Criterion

def toJson (criterion : Criterion) : Json :=
  .record [("id", some (.int criterion.id)), ("text", some (.string criterion.text))]

def ofOutline? (outline : Outline) : Option Criterion := do
  let given ← outline.record? ["id", "text"]
  let id ← Outline.required Outline.int? (given "id")
  let text ← Outline.required Outline.text? (given "text")
  return { id, text }

/-- Criteria, written as an array. -/
def listToJson (criteria : List Criterion) : Json := .array (criteria.map toJson)

def listOfOutline? : Outline → Option (List Criterion) := Outline.list? ofOutline?

end Criterion

namespace CriteriaSet

/-- A draft of criteria and nothing else. -/
def draft (criteria : List Criterion) : CriteriaSet := { criteria }

def isPersisted (set : CriteriaSet) : Bool := set.savedId.isSome

/-- The set as it is sent to be saved: its id is for the backend to give. -/
def withoutId (set : CriteriaSet) : CriteriaSet := { set with savedId := none }

def hasId (id : String) (set : CriteriaSet) : Bool := set.savedId == some id

/-- What a set is called: its name, else its timestamp, else its id. -/
def label (set : CriteriaSet) : String :=
  ((set.name <|> set.timestamp) <|> set.savedId).getD "Naamloze selectie"

def toJson (set : CriteriaSet) : Json :=
  .record
    [ ("criteria", some (Criterion.listToJson set.criteria)),
      ("summary", set.summary.map .string), ("savedId", set.savedId.map .string),
      ("timestamp", set.timestamp.map .string), ("name", set.name.map .string),
      ("isSelection", set.isSelection.map .bool) ]

def ofOutline? (outline : Outline) : Option CriteriaSet := do
  let given ← outline.record?
    ["criteria", "summary", "savedId", "timestamp", "name", "isSelection"]
  let criteria ← Outline.orElse [] Criterion.listOfOutline? (given "criteria")
  let summary ← Outline.maybe Outline.text? (given "summary")
  let savedId ← Outline.maybe Outline.text? (given "savedId")
  let timestamp ← Outline.maybe Outline.text? (given "timestamp")
  let name ← Outline.maybe Outline.text? (given "name")
  let isSelection ← Outline.maybe Outline.bool? (given "isSelection")
  return { criteria, summary, savedId, timestamp, name, isSelection }

def listToJson (sets : List CriteriaSet) : Json := .array (sets.map toJson)

def listOfOutline? : Outline → Option (List CriteriaSet) := Outline.list? ofOutline?

/-- A set to save: a criteria array is a draft, anything else has to be a set. -/
def ofDraft? (outline : Outline) : Option CriteriaSet :=
  (Criterion.listOfOutline? outline).map draft <|> ofOutline? outline

/-- The set to save that a text describes. -/
def readDraft? (text : String) : Option CriteriaSet := (Outline.read? text).bind ofDraft?

end CriteriaSet

end AppLauncher
