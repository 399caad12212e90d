import AppLauncher.Json.Basic
import AppLauncher.Text.Digit

/-!
JSON text: no blanks, and in strings only what has to be escaped is escaped.
-/
namespace AppLauncher.Json

/-- A character of a string. The quote, the backslash and the control characters are escaped, by a
letter where there is one. -/
def escaped (c : Char) : List Char :=
  if c = '"' then ['\\', '"']
  else if c = '\\' then ['\\', '\\']
  else if c.toNat = 8 then ['\\', 'b']
  else if c.toNat = 9 then ['\\', 't']
  else if c.toNat = 10 then ['\\', 'n']
  else if c.toNat = 12 then ['\\', 'f']
  else if c.toNat = 13 then ['\\', 'r']
  else if c.toNat < 32 then
    ['\\', 'u', '0', '0', Text.hexDigit (c.toNat / 16), Text.hexDigit (c.toNat % 16)]
  else [c]

def quoted (text : String) : List Char :=
  '"' :: text.toList.flatMap escaped ++ ['"']

mutual

/-- The text of a value. -/
def chars : Json → List Char
  | .null => ['n', 'u', 'l', 'l']
  | .bool true => ['t', 'r', 'u', 'e']
  | .bool false => ['f', 'a', 'l', 's', 'e']
  | .number n => n.chars
  | .string text => quoted text
  | .array [] => ['[', ']']
  | .array (item :: items) => '[' :: chars item ++ itemChars items
  | .object [] => [Char.ofNat 0x7B, Char.ofNat 0x7D]
  | .object ((name, value) :: fields) =>
    Char.ofNat 0x7B :: quoted name ++ ':' :: chars value ++ fieldChars fields

/-- The rest of an array after an element. -/
def itemChars : List Json → List Char
  | [] => [']']
  | item :: items => ',' :: chars item ++ itemChars items

/-- The rest of an object after a field. -/
def fieldChars : List (String × Json) → List Char
  | [] => [Char.ofNat 0x7D]
  | (name, value) :: fields => ',' :: quoted name ++ ':' :: chars value ++ fieldChars fields

end

def render (value : Json) : String := String.ofList value.chars

end AppLauncher.Json
