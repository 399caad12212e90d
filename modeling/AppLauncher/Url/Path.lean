import AppLauncher.Text.Split

/-!
Paths, as lists of segments. Reading a path resolves its dot segments: a single dot goes nowhere, a
double dot goes back one segment, and either at the end leaves an empty segment there.
-/
namespace AppLauncher.Url.Path

/-- The segment with encoded dots written out. -/
def dots : List Char → List Char
  | '%' :: '2' :: 'e' :: rest => '.' :: dots rest
  | '%' :: '2' :: 'E' :: rest => '.' :: dots rest
  | c :: rest => c :: dots rest
  | [] => []

def isSingleDot (segment : List Char) : Bool := dots segment == ['.']

def isDoubleDot (segment : List Char) : Bool := dots segment == ['.', '.']

/-- A drive letter, with a colon or a bar. -/
def isDrive : List Char → Bool
  | [c, d] => c.isAlpha && (d == ':' || d == '|')
  | _ => false

/-- Whether a segment names a drive, so that no double dot goes back over it. -/
def startsWithDrive : List Char → Bool
  | [c, d] => isDrive [c, d]
  | c :: d :: '\\' :: _ => isDrive [c, d]
  | _ => false

/-- The path without its last segment, unless that is a drive. -/
def back (path : List (List Char)) : List (List Char) :=
  match path.getLast? with
  | none => path
  | some segment => if startsWithDrive segment then path else path.dropLast

/-- A segment as it is kept: encoded, and a drive at the start of a file's path with a colon. -/
def kept (isFile : Bool) (path : List (List Char)) (encode : List Char → List Char)
    (segment : List Char) : List Char :=
  if isFile && path.isEmpty && isDrive segment then segment.take 1 ++ [':'] else encode segment

/-- The path with one more segment, between other segments or at its end. -/
def step (isFile : Bool) (encode : List Char → List Char) (path : List (List Char))
    (isEnd : Bool) (segment : List Char) : List (List Char) :=
  if isDoubleDot segment then back path ++ if isEnd then [[]] else []
  else if isSingleDot segment then path ++ if isEnd then [[]] else []
  else path ++ [kept isFile path encode segment]

/-- The path with more segments, of which the last one ends it. -/
def walk (isFile : Bool) (encode : List Char → List Char) (path : List (List Char)) :
    List (List Char) → List (List Char)
  | [] => path
  | [segment] => step isFile encode path true segment
  | segment :: more => walk isFile encode (step isFile encode path false segment) more

/-- A path as it is written: every segment after a slash. -/
def chars (path : List String) : List Char := path.flatMap fun segment => '/' :: segment.toList

end AppLauncher.Url.Path
