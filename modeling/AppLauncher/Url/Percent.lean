import AppLauncher.Text.Digit

/-!
Percent encoding. Each part of an address has its own set of characters that stand for themselves;
every other character is written byte by byte, as a percent sign and two hexadecimal digits.
-/
namespace AppLauncher.Url.Percent

/-- The characters that stand for themselves nowhere. -/
def isControl (c : Char) : Bool := c.toNat < 0x20 || c.toNat ≥ 0x7F

/-- In the path of a host that is not resolved, only these are encoded. -/
def inOpaque (c : Char) : Bool := isControl c

def inFragment (c : Char) : Bool :=
  isControl c || c == ' ' || c == '"' || c == '<' || c == '>' || c.toNat == 0x60

def inPath (c : Char) : Bool :=
  inFragment c || c == '#' || c == '?' || c.toNat == 0x7B || c.toNat == 0x7D

/-- In a single segment the characters that would end it are encoded too. -/
def inSegment (special : Bool) (c : Char) : Bool :=
  inPath c || c == '/' || c == '%' || (special && c == '\\')

def inQuery (special : Bool) (c : Char) : Bool :=
  isControl c || c == ' ' || c == '"' || c == '#' || c == '<' || c == '>' ||
    (special && c.toNat == 0x27)

def inUserInfo (c : Char) : Bool :=
  inPath c || c == '/' || c == ':' || c == ';' || c == '=' || c == '@' || c == '[' ||
    c == '\\' || c == ']' || c == '^' || c == '|'

def encodeByte (b : UInt8) : List Char :=
  ['%', Text.upperHexDigit (b.toNat / 16), Text.upperHexDigit (b.toNat % 16)]

def encodeChar (encoded : Char → Bool) (c : Char) : List Char :=
  if encoded c then (String.utf8EncodeChar c).flatMap encodeByte else [c]

/-- The text with the characters of a set encoded. -/
def encode (encoded : Char → Bool) (cs : List Char) : List Char :=
  cs.flatMap (encodeChar encoded)

/-- The bytes that a text stands for. A percent sign without two digits stands for itself. -/
def decode : List Char → List UInt8
  | [] => []
  | c :: d :: e :: rest =>
    if c = '%' then
      match Text.hexValue? d, Text.hexValue? e with
      | some high, some low => (high * 16 + low).toUInt8 :: decode rest
      | _, _ => 37 :: decode (d :: e :: rest)
    else String.utf8EncodeChar c ++ decode (d :: e :: rest)
  | c :: rest => String.utf8EncodeChar c ++ decode rest

end AppLauncher.Url.Percent
