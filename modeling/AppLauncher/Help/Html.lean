import AppLauncher.Text.Lines
import AppLauncher.Text.Lowercase
import AppLauncher.Text.Search

/-!
HTML on a terminal. Tags are dropped, except that a list item gets a bullet and a break starts a
line; five character references are read; the lines of the outcome are tidied.
-/
namespace AppLauncher.Help.Html

/-- The names of a tag that breaks the line. -/
def breaks : List (List Char) := [['b', 'r'], ['b', 'r', '/'], ['b', 'r', ' ', '/']]

/-- What is shown for a tag, given what stands between its brackets. -/
def tagText (body : List Char) : List Char :=
  let name := Text.lowered (Text.trimmed body)
  if name = ['l', 'i'] ∨ ['l', 'i', ' '].isPrefixOf name then ['•', ' ']
  else if name ∈ breaks then ['\n']
  else []

/-- The text without its tags, given what has been read of a tag that is open. A tag that is not
closed is text. -/
def strip : Option (List Char) → List Char → List Char
  | none, [] => []
  | some body, [] => '<' :: body
  | none, c :: rest => if c = '<' then strip (some []) rest else c :: strip none rest
  | some body, c :: rest =>
    if c = '>' then tagText body ++ strip none rest else strip (some (body ++ [c])) rest

/-- The character references, in the order in which they are read. -/
def references : List (List Char × List Char) :=
  [ (['&', 'a', 'm', 'p', ';'], ['&']), (['&', 'l', 't', ';'], ['<']),
    (['&', 'g', 't', ';'], ['>']), (['&', 'n', 'b', 's', 'p', ';'], [' ']),
    (['&', 'q', 'u', 'o', 't', ';'], ['"']) ]

/-- The text with its character references read, one kind after the other. -/
def unescaped (cs : List Char) : List Char :=
  references.foldl (fun text reference => Text.replaced reference.1 reference.2 text) cs

def shown (cs : List Char) : List Char := Text.tidied (unescaped (strip none cs))

/-- The text to show for HTML. -/
def render (html : String) : String := String.ofList (shown html.toList)

end AppLauncher.Help.Html
