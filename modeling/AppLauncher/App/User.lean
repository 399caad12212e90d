import AppLauncher.Json.Basic

/-!
Users. What is known of a user is an open bag of attributes. A question about them always has an
answer: whatever is missing, null or of another kind reads as not granted.
-/
namespace AppLauncher

structure User where
  attributes : Json := .null

namespace User

def anonymous : User := {}

/-- The value at the end of a path. A path leads through the fields of objects only. -/
def reach? : List String → Json → Option Json
  | [], value => some value
  | name :: path, value => (value.field? name).bind (reach? path)

def role? (user : User) : Option String := (user.attributes.field? "role").bind Json.text?

def isAdmin (user : User) : Bool := user.role? == some "admin"

/-- Whether the value at the end of a path is the literal true. -/
def flag (user : User) (path : List String) : Bool :=
  ((reach? path user.attributes).bind Json.bool?).getD false

end User

end AppLauncher
