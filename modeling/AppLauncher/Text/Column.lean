/-!
Table columns. Widths are counted in characters, not in the width they take on a screen.
-/
namespace AppLauncher.Text

/-- The text filled up with spaces on its right. -/
def padRight (width : Nat) (text : String) : String :=
  text ++ String.ofList (List.replicate (width - text.length) ' ')

/-- The text filled up with spaces on its left. -/
def padLeft (width : Nat) (text : String) : String :=
  String.ofList (List.replicate (width - text.length) ' ') ++ text

/-- A text of at most `size` characters; a longer one ends in three dots. -/
def truncate (size : Nat) (text : String) : String :=
  if text.length ≤ size then text
  else String.ofList (text.toList.take (size - 3)) ++ "..."

/-- A line that separates parts of a report. -/
def rule (width : Nat) : String := String.ofList (List.replicate width '-')

end AppLauncher.Text
