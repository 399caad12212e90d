import AppLauncher.Json.Number
import AppLauncher.KeyMap

/-!
JSON values. The fields of an object are kept in the order of their names, each name once, so that
the order in which they were written does not matter.
-/
namespace AppLauncher

inductive Json where
  | null
  | bool (value : Bool)
  | number (value : Json.Number)
  | string (text : String)
  | array (items : List Json)
  | object (fields : List (String × Json))
deriving Inhabited

namespace Json

/-- An object with the fields of a map. -/
def ofMap (fields : KeyMap Json) : Json := .object fields.entries

/-- An object of fields, of which those without a value are left out. -/
def record (fields : List (String × Option Json)) : Json :=
  .ofMap (.ofList (fields.filterMap fun (name, value) => value.map (name, ·)))

def int (value : Int) : Json := .number (.integer value)

def nat (value : Nat) : Json := .number (.integer value)

/-- The value of a field. Only an object has fields. -/
def field? (name : String) : Json → Option Json
  | .object fields => fields.lookup name
  | _ => none

def bool? : Json → Option Bool
  | .bool value => some value
  | _ => none

def text? : Json → Option String
  | .string text => some text
  | _ => none

end Json

end AppLauncher
