import AppLauncher.Text.Digit

/-!
TOML strings. A string stands between quotes of one of two kinds, one of each or three of each;
between three it may have line breaks. Backslashes mean something between double quotes only.
-/
namespace AppLauncher.Toml.Quoted

/-- A text read from the front, and the rest. -/
abbrev Part := Option (List Char × List Char)

def onto (c : Char) : Part → Part
  | none => none
  | some (cs, rest) => some (c :: cs, rest)

def isBlank (c : Char) : Bool := c == ' ' || c == '\t'

/-- Whether a character may stand in a comment or a string as it is. -/
def isPlain (c : Char) : Bool := c == '\t' || (0x20 ≤ c.toNat && c.toNat != 0x7F)

/-- The character of a code point written in hexadecimal. -/
def ofCode? (digits : List Char) : Option Char := do
  let n ← Text.inBase? 16 digits
  if n < 0xD800 ∨ (0xE000 ≤ n ∧ n < 0x110000) then return Char.ofNat n else none

/-- What a backslash and a letter stand for. -/
def letter? : Char → Option Char
  | 'b' => some (Char.ofNat 8)
  | 't' => some '\t'
  | 'n' => some '\n'
  | 'f' => some (Char.ofNat 12)
  | 'r' => some '\r'
  | '"' => some '"'
  | '\\' => some '\\'
  | _ => none

/-- The character after a backslash, and the number of characters that write it. -/
def escape? : List Char → Option (Char × Nat)
  | 'u' :: rest => if 4 ≤ rest.length then (ofCode? (rest.take 4)).map (·, 5) else none
  | 'U' :: rest => if 8 ≤ rest.length then (ofCode? (rest.take 8)).map (·, 9) else none
  | c :: _ => (letter? c).map (·, 1)
  | [] => none

/-- A string after its opening double quote. The first characters may belong to an escape that has
been read. -/
def basic : Nat → List Char → Part
  | _, [] => none
  | skip + 1, _ :: rest => basic skip rest
  | 0, c :: rest =>
    if c = '"' then some ([], rest)
    else if c = '\\' then
      match escape? rest with
      | none => none
      | some (e, size) => onto e (basic size rest)
    else if isPlain c then onto c (basic 0 rest)
    else none

/-- A string after its opening single quote. -/
def literal : List Char → Part
  | [] => none
  | c :: rest =>
    if c.toNat = 0x27 then some ([], rest)
    else if isPlain c then onto c (literal rest)
    else none

/-- The end of a string between three quotes: the three may follow one or two that belong to it. -/
def ending (quote : Char) : List Char → Part
  | c :: d :: rest =>
    if c = quote ∧ d = quote then some ([quote, quote], rest)
    else if c = quote then some ([quote], d :: rest)
    else some ([], c :: d :: rest)
  | [c] => if c = quote then some ([quote], []) else some ([], [c])
  | [] => some ([], [])

/-- Whether three quotes stand at the front. -/
def closes (quote : Char) (cs : List Char) : Bool := [quote, quote, quote].isPrefixOf cs

/-- Where a reader stands behind a backslash at the end of a line. -/
inductive Gap where
  | none
  /-- The line has to end. -/
  | opening
  /-- Everything blank is left out. -/
  | within
deriving DecidableEq

/-- Whether the text goes on with a line break. -/
def breaks : List Char → Bool
  | '\n' :: _ => true
  | '\r' :: '\n' :: _ => true
  | _ => false

/-- A string after its three opening double quotes. -/
def longBasic : Gap → Nat → List Char → Part
  | _, _, [] => none
  | gap, skip + 1, _ :: rest => longBasic gap skip rest
  | gap, 0, c :: rest =>
    if breaks (c :: rest) then
      let skip := if c = '\r' then 1 else 0
      if gap = .none then onto '\n' (longBasic .none skip rest) else longBasic .within skip rest
    else if isBlank c ∧ gap ≠ .none then longBasic gap 0 rest
    else if gap = .opening then none
    else if closes '"' (c :: rest) then ending '"' (rest.drop 2)
    else if c = '\\' then
      match rest with
      | d :: _ =>
        if isBlank d || breaks rest then longBasic .opening 0 rest
        else match escape? rest with
          | none => none
          | some (e, size) => onto e (longBasic .none size rest)
      | [] => none
    else if isPlain c then onto c (longBasic .none 0 rest)
    else none

/-- A string after its three opening single quotes. -/
def longLiteral : Nat → List Char → Part
  | _, [] => none
  | skip + 1, _ :: rest => longLiteral skip rest
  | 0, c :: rest =>
    let quote := Char.ofNat 0x27
    if breaks (c :: rest) then onto '\n' (longLiteral (if c = '\r' then 1 else 0) rest)
    else if closes quote (c :: rest) then ending quote (rest.drop 2)
    else if isPlain c then onto c (longLiteral 0 rest)
    else none

/-- The text after a line break at its front, which does not count. -/
def afterBreak : List Char → List Char
  | '\n' :: rest => rest
  | '\r' :: '\n' :: rest => rest
  | rest => rest

/-- A string on one line. -/
def short : List Char → Part
  | c :: rest =>
    if c = '"' then basic 0 rest
    else if c.toNat = 0x27 then literal rest
    else none
  | [] => none

/-- A string of any kind. -/
def string (cs : List Char) : Part :=
  if closes '"' cs then longBasic .none 0 (afterBreak (cs.drop 3))
  else if closes (Char.ofNat 0x27) cs then longLiteral 0 (afterBreak (cs.drop 3))
  else short cs

end AppLauncher.Toml.Quoted
