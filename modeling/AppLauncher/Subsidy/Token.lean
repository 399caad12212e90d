import AppLauncher.Text.Blank
import AppLauncher.Text.Utf8

/-!
Bearer tokens. A token is read anew for every request, so that a login elsewhere counts at once.
-/
namespace AppLauncher.Token

/-- The token that a file holds: its text, trimmed, unless that is blank or no text at all. -/
def ofBytes? (bytes : ByteArray) : Option String :=
  match Text.ofUtf8? bytes with
  | none => none
  | some text => if Text.isBlank text then none else some (Text.trim text)

end AppLauncher.Token
