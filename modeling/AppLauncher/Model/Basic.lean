import AppLauncher.App.Context
import AppLauncher.Json.OpenRecord

/-!
Models, as the registry publishes them. A model has an id, a name and capabilities; every other
field is kept at its own level and written again.
-/
namespace AppLauncher

/-- What the registry says about the abilities of a model. -/
structure Model.Meta where
  capabilities : KeyMap Json := {}
  kept : KeyMap Json := {}

structure Model.Info where
  about : Option Model.Meta := none
  kept : KeyMap Json := {}

structure Model where
  id : String
  name : String := ""
  info : Option Model.Info := none
  kept : KeyMap Json := {}

namespace Model

open Json (Outline)

/-! ### Capabilities -/

/-- The capabilities of a model, if the registry lists any. -/
def capabilities? (model : Model) : Option (KeyMap Json) :=
  (model.info.bind (·.about)).map (·.capabilities)

/-- Only the literal true grants a capability. -/
def hasCapability (model : Model) (key : String) : Bool :=
  ((model.capabilities?.bind (·.get? key)).bind Json.bool?).getD false

def Meta.withCapability (m : Meta) (key : String) (enabled : Bool) : Meta :=
  { m with capabilities := m.capabilities.insert key (.bool enabled) }

def Info.withCapability (info : Info) (key : String) (enabled : Bool) : Info :=
  { info with about := some ((info.about.getD {}).withCapability key enabled) }

/-- The model with one capability set. The levels above it are made where they are missing. -/
def withCapability (model : Model) (key : String) (enabled : Bool) : Model :=
  { model with info := some ((model.info.getD {}).withCapability key enabled) }

/-! ### Written form -/

/-- The fields of an open record together with those that it keeps. -/
def written (kept : KeyMap Json) (fields : List (String × Option Json)) : Json :=
  .ofMap (.ofList (kept.entries ++
    fields.filterMap fun (name, value) => value.map (name, ·)))

def Meta.toJson (m : Meta) : Json :=
  written m.kept [("capabilities", some (.ofMap m.capabilities))]

def Info.toJson (info : Info) : Json :=
  written info.kept [("meta", info.about.map Meta.toJson)]

def toJson (model : Model) : Json :=
  written model.kept
    [("id", some (.string model.id)), ("name", some (.string model.name)),
      ("info", model.info.map Info.toJson)]

def Meta.ofOutline? (outline : Outline) : Option Meta := do
  let fields ← outline.open? ["capabilities"]
  let capabilities ← Outline.orElse {} Outline.bag? (fields.given "capabilities")
  return { capabilities, kept := fields.kept }

def Info.ofOutline? (outline : Outline) : Option Info := do
  let fields ← outline.open? ["meta"]
  let about ← Outline.maybe Meta.ofOutline? (fields.given "meta")
  return { about, kept := fields.kept }

/-- A model has an id that is a text; nothing else has to be given. -/
def ofOutline? (outline : Outline) : Option Model := do
  let fields ← outline.open? ["id", "name", "info"]
  let id ← Outline.required Outline.text? (fields.given "id")
  let name ← Outline.orElse "" Outline.text? (fields.given "name")
  let info ← Outline.maybe Info.ofOutline? (fields.given "info")
  return { id, name, info, kept := fields.kept }

end Model

end AppLauncher
