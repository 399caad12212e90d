import AppLauncher.Text.Search

/-!
Parts of the manual: sections, and the items in them. Titles and contents leave the name of the
product open.
-/
namespace AppLauncher.Help

structure Entry where
  id : String
  emoji : String
  title : String
  /-- HTML -/
  content : String
deriving DecidableEq, Repr

structure Section where
  entry : Entry
  items : List Entry := []
deriving DecidableEq, Repr

/-- What an id names. -/
inductive Found where
  | whole (found : Section)
  | item (found : Entry)
deriving DecidableEq, Repr

def Found.entry : Found → Entry
  | whole found => found.entry
  | item found => found

def Section.find? (id : String) (part : Section) : Option Found :=
  if part.entry.id = id then some (.whole part)
  else (part.items.find? (·.id == id)).map .item

/-- The section or item with an id, the first one in the order of the manual. -/
def find? (id : String) (sections : List Section) : Option Found :=
  sections.findSome? (Section.find? id)

/-- What stands for the name of the product. -/
def placeholder : String := "\x7b\x7bAPP_NAME\x7d\x7d"

/-- A text with the name of the product filled in. -/
def brand (name text : String) : String := Text.replace placeholder name text

end AppLauncher.Help
