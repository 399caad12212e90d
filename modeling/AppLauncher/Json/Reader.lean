import AppLauncher.Json.Outline
import AppLauncher.Text.Digit
import AppLauncher.Text.Utf8

/-!
Reading JSON text. A reader takes what it reads from the front of the text and returns the rest.
Blanks are space, tab, line feed and carriage return; nothing may follow the value but blanks.
-/
namespace AppLauncher.Json

namespace Reader

def isBlank (c : Char) : Bool := c = ' ' || c = '\t' || c = '\n' || c = '\r'

def skip (cs : List Char) : List Char := cs.dropWhile isBlank

/-! ### Numbers -/

/-- The part after the decimal point, if there is one; it has at least one digit. -/
def fraction : List Char → Option (List Char × List Char)
  | '.' :: rest =>
    match rest.takeWhile Char.isDigit with
    | [] => none
    | ds => some (ds, rest.dropWhile Char.isDigit)
  | rest => some ([], rest)

/-- The sign of an exponent: whether it is negative. -/
def exponentSign : List Char → Bool × List Char
  | '-' :: rest => (true, rest)
  | '+' :: rest => (false, rest)
  | rest => (false, rest)

def exponent : List Char → Option (Option (Bool × List Char) × List Char)
  | c :: rest =>
    if c = 'e' ∨ c = 'E' then
      let (negative, rest) := exponentSign rest
      match rest.takeWhile Char.isDigit with
      | [] => none
      | ds => some (some (negative, ds), rest.dropWhile Char.isDigit)
    else some (none, c :: rest)
  | [] => some (none, [])

/-- The digits before the decimal point: zero, or digits that do not start with a zero. -/
def whole (cs : List Char) : Option (List Char × List Char) :=
  match cs.takeWhile Char.isDigit with
  | [] => none
  | ['0'] => some (['0'], cs.dropWhile Char.isDigit)
  | '0' :: _ => none
  | ds => some (ds, cs.dropWhile Char.isDigit)

def magnitude (negative : Bool) (cs : List Char) : Option (Numeral × List Char) := do
  let (ds, rest) ← whole cs
  let (fs, rest) ← fraction rest
  let (power, rest) ← exponent rest
  return (⟨negative, ds, fs, power⟩, rest)

def numeral : List Char → Option (Numeral × List Char)
  | '-' :: rest => magnitude true rest
  | cs => magnitude false cs

/-! ### Strings -/

/-- The code point of an escape. -/
def hex4? (a b c d : Char) : Option Nat := Text.inBase? 16 [a, b, c, d]

/-- What a backslash and a letter stand for. -/
def letter? : Char → Option Nat
  | '"' => some 34
  | '\\' => some 92
  | '/' => some 47
  | 'b' => some 8
  | 'f' => some 12
  | 'n' => some 10
  | 'r' => some 13
  | 't' => some 9
  | _ => none

def onto (n : Nat) : Option (List Nat × List Char) → Option (List Nat × List Char)
  | none => none
  | some (ns, rest) => some (n :: ns, rest)

/-- The code points of a string after its opening quote. An escape may name half of a surrogate
pair. -/
def codes : List Char → Option (List Nat × List Char)
  | [] => none
  | '"' :: rest => some ([], rest)
  | '\\' :: 'u' :: a :: b :: c :: d :: rest =>
    match hex4? a b c d with
    | none => none
    | some n => onto n (codes rest)
  | '\\' :: e :: rest =>
    match letter? e with
    | none => none
    | some n => onto n (codes rest)
  | c :: rest => if c.toNat < 32 ∨ c = '\\' then none else onto c.toNat (codes rest)

def isHighSurrogate (n : Nat) : Bool := 0xD800 ≤ n && n ≤ 0xDBFF

def isLowSurrogate (n : Nat) : Bool := 0xDC00 ≤ n && n ≤ 0xDFFF

/-- The characters of code points, where the halves of a surrogate pair stand together. -/
def joined? : List Nat → Option (List Char)
  | [] => some []
  | [n] => if isHighSurrogate n || isLowSurrogate n then none else some [Char.ofNat n]
  | n :: m :: rest =>
    if isHighSurrogate n then
      if isLowSurrogate m then
        (joined? rest).map (Char.ofNat (0x10000 + (n - 0xD800) * 0x400 + (m - 0xDC00)) :: ·)
      else none
    else if isLowSurrogate n then none
    else (joined? (m :: rest)).map (Char.ofNat n :: ·)

/-- A string after its opening quote; its text is missing if a half of a pair stands alone. -/
def string (cs : List Char) : Option (Option String × List Char) :=
  (codes cs).map fun (ns, rest) => ((joined? ns).map String.ofList, rest)

/-! ### Values -/

/-- The name of a field and the colon after it. -/
def fieldName (cs : List Char) : Option (Option String × List Char) :=
  match skip cs with
  | '"' :: rest =>
    match string rest with
    | none => none
    | some (name, rest) =>
      match skip rest with
      | ':' :: rest => some (name, rest)
      | _ => none
  | _ => none

def leftBrace : Char := Char.ofNat 0x7B

def rightBrace : Char := Char.ofNat 0x7D

mutual

/-- A value, with as much fuel as twice the length of the text. -/
def value : Nat → List Char → Option (Outline × List Char)
  | 0, _ => none
  | fuel + 1, cs =>
    match skip cs with
    | 'n' :: 'u' :: 'l' :: 'l' :: rest => some (.null, rest)
    | 't' :: 'r' :: 'u' :: 'e' :: rest => some (.bool true, rest)
    | 'f' :: 'a' :: 'l' :: 's' :: 'e' :: rest => some (.bool false, rest)
    | '"' :: rest => (string rest).map fun (text, rest) => (.string text, rest)
    | '[' :: rest =>
      match skip rest with
      | ']' :: rest => some (.array [], rest)
      | _ => (items fuel rest).map fun (items, rest) => (.array items, rest)
    | c :: rest =>
      if c = leftBrace then
        match skip rest with
        | d :: rest' =>
          if d = rightBrace then some (.object [], rest')
          else (fields fuel rest).map fun (fields, rest) => (.object fields, rest)
        | [] => none
      else (numeral (c :: rest)).map fun (n, rest) => (.number n.value?, rest)
    | [] => none

/-- The elements of an array up to its closing bracket, at least one. -/
def items : Nat → List Char → Option (List Outline × List Char)
  | 0, _ => none
  | fuel + 1, cs =>
    match value fuel cs with
    | none => none
    | some (item, rest) =>
      match skip rest with
      | ',' :: rest => (items fuel rest).map fun (more, rest) => (item :: more, rest)
      | ']' :: rest => some ([item], rest)
      | _ => none

/-- The fields of an object up to its closing brace, at least one. -/
def fields : Nat → List Char → Option (List (Option String × Outline) × List Char)
  | 0, _ => none
  | fuel + 1, cs =>
    match fieldName cs with
    | none => none
    | some (name, rest) =>
      match value fuel rest with
      | none => none
      | some (item, rest) =>
        match skip rest with
        | c :: rest =>
          if c = ',' then (fields fuel rest).map fun (more, rest) => ((name, item) :: more, rest)
          else if c = rightBrace then some ([(name, item)], rest)
          else none
        | [] => none

end

end Reader

/-- The outline of a text that is one JSON value. -/
def Outline.read? (text : String) : Option Outline :=
  match Reader.value (2 * text.length + 2) text.toList with
  | some (outline, rest) => if (Reader.skip rest).isEmpty then some outline else none
  | none => none

/-- What an ill-formed part of a text is read as, which is nothing but half of a surrogate pair in a string: it leaves
the string without its text, and stands nowhere else. -/
def Reader.garbled : List Char := ['x', '\\', 'u', 'd', 'c', '0', '0']

/-- The outline of bytes that are one JSON value. Only a string that is kept has to be well-formed. -/
def Outline.ofBytes? (bytes : ByteArray) : Option Outline :=
  Outline.read? (String.ofList (Text.Utf8.decode Reader.garbled none bytes.data.toList))

/-- The value of a text, all of which is kept. -/
def read? (text : String) : Option Json := (Outline.read? text).bind Outline.kept?

end AppLauncher.Json
