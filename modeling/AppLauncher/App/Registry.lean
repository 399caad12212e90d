import AppLauncher.App.Context
import AppLauncher.App.User

/-!
The apps of the launcher, and who may open them.
-/
namespace AppLauncher

/-- Who may open an app: everyone, or administrators and the users whose permissions name it. -/
inductive Permission where
  | everyone
  | granted (flag : String)
deriving DecidableEq, Repr

def Permission.allows (permission : Permission) (user : User) : Bool :=
  match permission with
  | everyone => true
  | granted flag => user.isAdmin || user.flag ["permissions", "app_launcher", flag]

structure App where
  name : String
  icon : String
  route : String
  capability : Option String
  context : Context
  permission : Permission
deriving DecidableEq, Repr

namespace App

def allows (app : App) (user : User) : Bool := app.permission.allows user

/-- Every app, in the order in which the launcher shows them. -/
def all : List App :=
  [ { name := "Chat", icon := "💬", route := "/", capability := some "chat_app_access",
      context := .chat, permission := .everyone },
    { name := "Versimpelaar", icon := "🔤", route := "/app-launcher/versimpelaar",
      capability := some "versimpelaar_app_access", context := .versimpelaar,
      permission := .granted "versimpelaar" },
    { name := "Subsidies", icon := "💶", route := "/app-launcher/subsidies",
      capability := some "subsidie_app_access", context := .subsidie,
      permission := .granted "subsidies" } ]

/-- The apps that a user may open. -/
def permitted (user : User) : List App := all.filter (·.allows user)

def atRoute? (route : String) : Option App := all.find? (·.route == route)

end App

end AppLauncher
