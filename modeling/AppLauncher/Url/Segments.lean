import AppLauncher.Url.Basic

/-!
Longer addresses. Segments are put behind the path of an address, each encoded so that it stays one
segment. What an address says besides its path does not change.
-/
namespace AppLauncher.Url

namespace Path

/-- The path without one empty segment at its end. -/
def withoutEmptyEnd (path : List String) : List String :=
  if 1 < path.length ∧ path.getLast? = some "" then path.dropLast else path

/-- The characters of a segment that count. -/
def joinedLine (cs : List Char) : List Char :=
  cs.filter fun c => !(c == '\t' || c == '\n' || c == '\r')

/-- The path with a segment behind it. A lone dot or double dot is no segment; one that comes about
when line breaks are left out ends the path as a dot segment does. -/
def push (special : Bool) (path : List String) (segment : String) : List String :=
  if segment = "." ∨ segment = ".." then path
  else
    let text := joinedLine segment.toList
    let path := if path = [""] then [] else path
    if text = ['.', '.'] then (back (path.map String.toList)).map String.ofList ++ [""]
    else path ++
      [if text = ['.'] then "" else String.ofList (Percent.encode (Percent.inSegment special) text)]

end Path

/-- The address with segments behind its path. -/
def extend (url : Url) (segments : List String) : Url :=
  { url with path :=
      segments.foldl (Path.push (isSpecial url.scheme)) (Path.withoutEmptyEnd url.path) }

end AppLauncher.Url
