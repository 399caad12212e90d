/-!
Looking for a text inside another one, and putting something else in its place.
-/
namespace AppLauncher.Text

/-- Whether `part` stands somewhere in the text. -/
def occurs (part : List Char) : List Char → Bool
  | [] => part.isEmpty
  | c :: rest => part.isPrefixOf (c :: rest) || occurs part rest

/-- The text after its first `skip` characters, with every occurrence of `part` replaced. The
occurrences are taken from left to right and do not overlap. -/
def replaceAfter (part new : List Char) : Nat → List Char → List Char
  | _, [] => []
  | skip + 1, _ :: rest => replaceAfter part new skip rest
  | 0, c :: rest =>
    if part.isPrefixOf (c :: rest) then new ++ replaceAfter part new (part.length - 1) rest
    else c :: replaceAfter part new 0 rest

/-- Every occurrence of the non-empty text `part`, replaced by `new`. -/
def replaced (part new : List Char) (cs : List Char) : List Char := replaceAfter part new 0 cs

def replace (part new text : String) : String :=
  String.ofList (replaced part.toList new.toList text.toList)

/-- Whether `part` starts the text. -/
def startsWith (part text : String) : Bool := part.toList.isPrefixOf text.toList

end AppLauncher.Text
