/-!
TOML values. Numbers and times are kept as far as anybody here asks about them: an integer by its
value, a float and a time by the text that writes them.
-/
namespace AppLauncher

inductive Toml where
  | string (text : String)
  | integer (value : Int)
  | float (text : String)
  | boolean (value : Bool)
  | moment (text : String)
  | array (items : List Toml)
  | table (fields : List (String × Toml))
deriving Inhabited

namespace Toml

/-- The value of a field. Only a table has fields. -/
def field? (name : String) : Toml → Option Toml
  | .table fields => fields.lookup name
  | _ => none

end Toml

end AppLauncher
