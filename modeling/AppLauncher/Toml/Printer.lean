import AppLauncher.Toml.Quoted

/-!
Writing TOML strings. A string stands between double quotes if nothing but tabs has to be escaped
there, else between single quotes, else between three of either kind; a string that fits nowhere is
escaped.
-/
namespace AppLauncher.Toml.Quoted

/-- What a string holds that quotes of some kind may not hold. -/
structure Content where
  /-- A line feed. -/
  hasBreak : Bool
  /-- A character that has no form of its own. -/
  hasControl : Bool
  hasBackslash : Bool
  /-- The longest run of double quotes. -/
  doubleQuotes : Nat
  /-- The longest run of single quotes. -/
  singleQuotes : Nat

/-- The longest run of a character, of which some stand before the text. -/
def longestRun (c : Char) : Nat → List Char → Nat
  | before, [] => before
  | before, d :: rest =>
    if d = c then longestRun c (before + 1) rest else max before (longestRun c 0 rest)

/-- Whether a character has no form of its own. The tab and the line feed have one. -/
def isControl (c : Char) : Bool := (c.toNat < 0x20 && c != '\t' && c != '\n') || c.toNat == 0x7F

def Content.of (cs : List Char) : Content where
  hasBreak := cs.contains '\n'
  hasControl := cs.any isControl
  hasBackslash := cs.contains '\\'
  doubleQuotes := longestRun '"' 0 cs
  singleQuotes := longestRun (Char.ofNat 0x27) 0 cs

inductive Style where
  | basic
  | literal
  | longBasic
  | longLiteral
deriving DecidableEq, Repr

/-- The first style that shows a string as it is. Failing all, double quotes are put around it, one
or three as it has lines. -/
def style (content : Content) : Style :=
  let isClean := !content.hasControl && !content.hasBackslash
  if isClean && content.doubleQuotes = 0 && !content.hasBreak then .basic
  else if !content.hasControl && content.singleQuotes = 0 && !content.hasBreak then .literal
  else if isClean && content.doubleQuotes ≤ 2 then .longBasic
  else if !content.hasControl && content.singleQuotes ≤ 2 then .longLiteral
  else if content.hasBreak then .longBasic
  else .basic

/-- A character between double quotes. -/
def escapedChar (c : Char) : List Char :=
  if c = '"' then ['\\', '"']
  else if c = '\\' then ['\\', '\\']
  else if c.toNat = 8 then ['\\', 'b']
  else if c = '\t' then ['\\', 't']
  else if c = '\n' then ['\\', 'n']
  else if c.toNat = 12 then ['\\', 'f']
  else if c = '\r' then ['\\', 'r']
  else if isControl c then
    ['\\', 'u', '0', '0', Text.upperHexDigit (c.toNat / 16), Text.upperHexDigit (c.toNat % 16)]
  else [c]

/-- A text between three double quotes, after a run of so many double quotes. Line feeds stand for
themselves there, and so do two double quotes in a row. -/
def longEscaped : Nat → List Char → List Char
  | _, [] => []
  | run, c :: rest =>
    if c = '"' then
      if run < 2 then '"' :: longEscaped (run + 1) rest else '\\' :: '"' :: longEscaped 0 rest
    else (if c = '\n' then ['\n'] else escapedChar c) ++ longEscaped 0 rest

/-- The line break that is put after opening quotes, so that a text of several lines starts on a
line of its own. -/
def opening (content : Content) : List Char := if content.hasBreak then ['\n'] else []

/-- A text, inside quotes. -/
def around (quotes : List Char) (cs : List Char) : List Char := quotes ++ cs ++ quotes

def quoted (cs : List Char) : List Char :=
  let content := Content.of cs
  let single := Char.ofNat 0x27
  match style content with
  | .basic => around ['"'] (cs.flatMap escapedChar)
  | .literal => around [single] cs
  | .longBasic => around ['"', '"', '"'] (opening content ++ longEscaped 0 cs)
  | .longLiteral => around [single, single, single] (opening content ++ cs)

end AppLauncher.Toml.Quoted
