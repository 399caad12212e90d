import AppLauncher.Http.Body
import AppLauncher.Json.Basic
import AppLauncher.Url.Basic

/-!
Requests and what comes back.
-/
namespace AppLauncher.Http

inductive Method where
  | get
  | post
  | delete
deriving DecidableEq, Repr

def Method.name : Method → String
  | get => "GET"
  | post => "POST"
  | delete => "DELETE"

structure Request where
  method : Method
  url : Url
  authorization : String
  contentType : String := "application/json"
  body : Option Json := none

/-- What comes back for a request: a status and a body, or nothing. -/
inductive Reply where
  | answered (status : Nat) (body : Body)
  | lost

/-- Whether a text can stand in a header. -/
def fitsHeader (text : String) : Bool :=
  text.toList.all fun c => c == '\t' || (0x20 ≤ c.toNat && c.toNat != 0x7F)

end AppLauncher.Http
