/-!
Text from bytes in UTF-8. Reading a token or a file wants all bytes to be well-formed. A reply is read whatever its
bytes are, and each ill-formed part of it then stands for something else.
-/
namespace AppLauncher.Text

/-- The text that the bytes encode, if they are well-formed. -/
def ofUtf8? (bytes : ByteArray) : Option String := String.fromUTF8? bytes

namespace Utf8

/-- A character of which some bytes have been read: the value so far, the number of bytes to come,
and the bounds of the next one. -/
structure Partial where
  value : Nat
  missing : Nat
  least : Nat := 0x80
  most : Nat := 0xBF

/-- What a byte says when no character is under way: a whole character, the start of one, or, as the mark, neither. -/
def start (mark : List Char) (b : Nat) : List Char × Option Partial :=
  if b < 0x80 then ([Char.ofNat b], none)
  else if 0xC2 ≤ b ∧ b ≤ 0xDF then ([], some ⟨b - 0xC0, 1, 0x80, 0xBF⟩)
  else if b = 0xE0 then ([], some ⟨0, 2, 0xA0, 0xBF⟩)
  else if b = 0xED then ([], some ⟨0xD, 2, 0x80, 0x9F⟩)
  else if 0xE1 ≤ b ∧ b ≤ 0xEF then ([], some ⟨b - 0xE0, 2, 0x80, 0xBF⟩)
  else if b = 0xF0 then ([], some ⟨0, 3, 0x90, 0xBF⟩)
  else if 0xF1 ≤ b ∧ b ≤ 0xF3 then ([], some ⟨b - 0xF0, 3, 0x80, 0xBF⟩)
  else if b = 0xF4 then ([], some ⟨4, 3, 0x80, 0x8F⟩)
  else (mark, none)

/-- The characters of the bytes, with a mark for each longest part that begins a character and does not end it. -/
def decode (mark : List Char) : Option Partial → List UInt8 → List Char
  | none, [] => []
  | some _, [] => mark
  | none, b :: rest =>
    let (chars, next) := start mark b.toNat
    chars ++ decode mark next rest
  | some p, b :: rest =>
    if p.least ≤ b.toNat ∧ b.toNat ≤ p.most then
      let value := p.value * 64 + (b.toNat - 0x80)
      if p.missing ≤ 1 then Char.ofNat value :: decode mark none rest
      else decode mark (some { value := value, missing := p.missing - 1 }) rest
    else
      let (chars, next) := start mark b.toNat
      mark ++ chars ++ decode mark next rest

end Utf8

/-- What is shown in the place of something unreadable. -/
def replacement : Char := Char.ofNat 0xFFFD

/-- The text to show for any bytes. -/
def ofBytes (bytes : ByteArray) : String :=
  String.ofList (Utf8.decode [replacement] none bytes.data.toList)

end AppLauncher.Text
