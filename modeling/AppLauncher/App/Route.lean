import AppLauncher.App.Context
import AppLauncher.Text.Search

/-!
Routes. The context follows the route that a user opens: of the rules below the first one that
matches decides, and a route that no rule matches leaves the context alone.
-/
namespace AppLauncher

namespace Route

/-- What a route has to contain, or to be. -/
inductive Matcher where
  | contains (part : String)
  | exact (path : String)
deriving DecidableEq, Repr

def Matcher.accepts (matcher : Matcher) (route : String) : Bool :=
  match matcher with
  | contains part => Text.occurs part.toList route.toList
  | exact path => route == path

structure Rule where
  matchers : List Matcher
  context : Context
deriving DecidableEq, Repr

def Rule.accepts (rule : Rule) (route : String) : Bool := rule.matchers.any (·.accepts route)

/-- The rules in order of precedence. The simplifier has a second path, named after the language
level that it writes in. -/
def rules : List Rule :=
  [ { matchers := [.contains "/app-launcher/versimpelaar"], context := .versimpelaar },
    { matchers := [.contains "/app-launcher/b1-taalniveau"], context := .versimpelaar },
    { matchers := [.contains "/app-launcher/subsidies"], context := .subsidie },
    { matchers := [.contains "/chat", .exact "/", .exact "/(app)", .exact "/(app)/"],
      context := .chat } ]

/-- The context of a route, if it belongs to an app. -/
def context? (route : String) : Option Context :=
  (rules.find? (·.accepts route)).map (·.context)

end Route

end AppLauncher
