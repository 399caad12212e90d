import AppLauncher.Toml.Scalar
import AppLauncher.Toml.Quoted
import AppLauncher.Toml.Tree

/-!
Reading TOML documents. A document is read line by line into entries and headers, and these are put
together afterwards.
-/
namespace AppLauncher.Toml

namespace Reader

open Quoted (isBlank isPlain)

def skip (cs : List Char) : List Char := cs.dropWhile isBlank

/-- The text after a comment, if there is one at the front. -/
def skipComment : List Char → List Char
  | '#' :: rest => rest.dropWhile isPlain
  | rest => rest

/-- The text after a line break. -/
def lineBreak : List Char → Option (List Char)
  | '\n' :: rest => some rest
  | '\r' :: '\n' :: rest => some rest
  | _ => none

/-- The text after the end of a line, where a comment may stand. -/
def lineEnd (cs : List Char) : Option (List Char) :=
  match skipComment (skip cs) with
  | [] => some []
  | rest => lineBreak rest

/-- The text after blanks, comments and line breaks. A comment ends with its line. -/
def skipLines : Nat → List Char → List Char
  | 0, cs => cs
  | fuel + 1, cs =>
    match lineBreak (skipComment (skip cs)) with
    | some rest => skipLines fuel rest
    | none => skip cs

/-! ### Keys -/

/-- The number of keys and brackets that may stand inside each other. -/
def deepest : Nat := 80

def isBare (c : Char) : Bool :=
  c.isAlphanum || c == '-' || c == '_'

def simpleKey (cs : List Char) : Option (String × List Char) :=
  match cs.takeWhile isBare with
  | [] => (Quoted.short cs).map fun (text, rest) => (String.ofList text, rest)
  | bare => some (String.ofList bare, cs.dropWhile isBare)

/-- Keys with dots between them. -/
def dotted : Nat → List Char → Option (List String × List Char)
  | 0, _ => none
  | fuel + 1, cs => do
    let (name, rest) ← simpleKey (skip cs)
    match skip rest with
    | '.' :: rest =>
      let (names, rest) ← dotted fuel rest
      return (name :: names, rest)
    | rest => return ([name], rest)

/-- A key: the path to a table, and a name in it. -/
def key (cs : List Char) : Option (List String × String × List Char) := do
  let (names, rest) ← dotted (deepest - 1) cs
  let name ← names.getLast?
  return (names.dropLast, name, rest)

/-- The text after a character that has to be there. -/
def expect (c : Char) : List Char → Option (List Char)
  | d :: rest => if d = c then some rest else none
  | [] => none

/-! ### Values -/

def startsScalar (c : Char) : Bool :=
  c.isDigit || c == '+' || c == '-' || c == 'i' || c == 'n'

def leftBrace : Char := Char.ofNat 0x7B

def rightBrace : Char := Char.ofNat 0x7D

mutual

/-- A value, inside of so many brackets at most, with as much fuel as the length of the text. -/
def value : Nat → Nat → List Char → Option (Toml × List Char)
  | 0, _, _ => none
  | fuel + 1, room, cs =>
    match cs with
    | [] => none
    | c :: rest =>
      if c = '"' ∨ c.toNat = 0x27 then
        (Quoted.string cs).map fun (text, rest) => (.string (String.ofList text), rest)
      else if c = '[' then
        if room = 0 then none
        else
          let rest := skipLines rest.length rest
          match rest with
          | ']' :: rest => some (.array [], rest)
          | _ => (items fuel (room - 1) rest).map fun (items, rest) => (.array items, rest)
      else if c = leftBrace then
        if room = 0 then none
        else match skip rest with
          | d :: rest' =>
            if d = rightBrace then some (.table [], rest')
            else do
              let (entries, rest) ← entries fuel (room - 1) rest
              return (← ofEntries? entries, rest)
          | [] => none
      else if startsScalar c then Scalar.read cs
      else match Scalar.word ['t', 'r', 'u', 'e'] cs, Scalar.word ['f', 'a', 'l', 's', 'e'] cs with
        | some (_, rest), _ => some (.boolean true, rest)
        | none, some (_, rest) => some (.boolean false, rest)
        | none, none => none

/-- The elements of an array up to its bracket, at least one. A comma may stand after the last. -/
def items : Nat → Nat → List Char → Option (List Toml × List Char)
  | 0, _, _ => none
  | fuel + 1, room, cs =>
    match value fuel room cs with
    | none => none
    | some (item, rest) =>
      match skipLines rest.length rest with
      | ']' :: rest => some ([item], rest)
      | ',' :: rest =>
        match skipLines rest.length rest with
        | ']' :: rest => some ([item], rest)
        | rest => (items fuel room rest).map fun (items, rest) => (item :: items, rest)
      | _ => none

/-- The entries of a table up to its brace, at least one. -/
def entries : Nat → Nat → List Char → Option (List Entry × List Char)
  | 0, _, _ => none
  | fuel + 1, room, cs =>
    match key cs with
    | none => none
    | some (path, name, rest) =>
      match expect '=' rest with
      | none => none
      | some rest =>
        match value fuel room (skip rest) with
        | none => none
        | some (item, rest) =>
          match skip rest with
          | c :: rest =>
            if c = rightBrace then some ([⟨path, name, item⟩], rest)
            else if c = ',' then
              (entries fuel room rest).map fun (more, rest) => (⟨path, name, item⟩ :: more, rest)
            else none
          | [] => none

end

/-! ### Lines -/

def entry (cs : List Char) : Option (Statement × List Char) := do
  let (path, name, rest) ← key cs
  let rest ← expect '=' rest
  let (item, rest) ← value (2 * rest.length + 2) (deepest - 1) (skip rest)
  return (.entry ⟨path, name, item⟩, ← lineEnd rest)

/-- A header after its first bracket. A second bracket makes it the header of a list. -/
def header : List Char → Option (Statement × List Char)
  | '[' :: rest => do
    let (path, name, rest) ← key rest
    let rest ← expect ']' rest
    let rest ← expect ']' rest
    return (.header true path name, ← lineEnd rest)
  | cs => do
    let (path, name, rest) ← key cs
    let rest ← expect ']' rest
    return (.header false path name, ← lineEnd rest)

/-- The statements of a document, with as much fuel as it has characters. -/
def statements : Nat → List Char → Option (List Statement)
  | 0, _ => none
  | fuel + 1, cs =>
    match skip cs with
    | [] => some []
    | '#' :: rest => (lineEnd ('#' :: rest)).bind (statements fuel)
    | '[' :: rest => do
      let (statement, rest) ← header rest
      return statement :: (← statements fuel rest)
    | c :: rest =>
      match lineBreak (c :: rest) with
      | some rest => statements fuel rest
      | none => do
        let (statement, rest) ← entry (c :: rest)
        return statement :: (← statements fuel rest)

/-- A byte order mark does not count. -/
def withoutMark : List Char → List Char
  | c :: rest => if c.toNat = 0xFEFF then rest else c :: rest
  | [] => []

end Reader

/-- The table that a document writes. -/
def read? (text : String) : Option Toml :=
  (Reader.statements (text.length + 1) (Reader.withoutMark text.toList)).bind ofStatements?

end AppLauncher.Toml
