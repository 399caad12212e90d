import AppLauncher.Text.Blank
import AppLauncher.Text.Split

/-!
Lines. A text is tidy when each of its lines has something to read and no blank at its ends.
-/
namespace AppLauncher.Text

/-- The lines of a text; a text without a line feed is one line. -/
def linesOf (cs : List Char) : List (List Char) := splitBy (· == '\n') cs

/-- The text with its lines trimmed and the blank ones left out. -/
def tidied (cs : List Char) : List Char :=
  joinWith '\n' (((linesOf cs).map trimmed).filter fun line => !line.isEmpty)

end AppLauncher.Text
