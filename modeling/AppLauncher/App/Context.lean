import AppLauncher.Text.Lowercase

/-!
App contexts. A context says which app is on the screen, and with that which models are worth
offering there.
-/
namespace AppLauncher

inductive Context where
  | chat
  | versimpelaar
  | subsidie
deriving DecidableEq, Inhabited, Repr

namespace Context

def all : List Context := [.chat, .versimpelaar, .subsidie]

def name : Context → String
  | chat => "chat"
  | versimpelaar => "versimpelaar"
  | subsidie => "subsidie"

/-- The capability that a model must carry to be offered in a context. -/
def capability : Context → String
  | chat => "chat_app_access"
  | versimpelaar => "versimpelaar_app_access"
  | subsidie => "subsidie_app_access"

/-- The context of a name, spelled as it is written. -/
def ofName? (name : String) : Option Context := all.find? fun context => context.name == name

/-- A name that no context has, in lower case. -/
structure Unknown where
  name : String
deriving DecidableEq, Repr

def Unknown.message (unknown : Unknown) : String := s!"unknown app context '{unknown.name}'"

/-- The context that a user names, in letters of either case. -/
def ofUser (text : String) : Except Unknown Context :=
  let name := Text.lower text
  match ofName? name with
  | some context => .ok context
  | none => .error ⟨name⟩

end Context

end AppLauncher
