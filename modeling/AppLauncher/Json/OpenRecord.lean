import AppLauncher.Json.Record

/-!
Open records. An open record keeps the fields that it does not know, so that a value can pass
through it without loss. It is written as an object only, and all of it is kept.
-/
namespace AppLauncher.Json.Outline

/-- The fields that an open record knows, and the others. -/
structure Opened where
  given : Given
  kept : KeyMap Json

/-- The value of a field that is kept. -/
def keptField? (field : String × Outline) : Option (String × Json) :=
  field.2.json?.map (field.1, ·)

/-- The fields of an open record: those with the given names, each at most once, and the rest. -/
def open? (names : List String) : Outline → Option Opened
  | .object fields => do
    let named ← fields.mapM (pair? some)
    let known := named.filter fun field => names.contains field.1
    let others := named.filter fun field => !names.contains field.1
    let kept ← others.mapM keptField?
    if (known.map Prod.fst).Nodup then return ⟨fun name => known.lookup name, .ofList kept⟩
    else none
  | _ => none

/-- A map of values that are kept. -/
def bag? : Outline → Option (KeyMap Json) := map? json?

end AppLauncher.Json.Outline
