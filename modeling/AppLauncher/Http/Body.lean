import AppLauncher.Json.Reader
import AppLauncher.Text.Utf16
import AppLauncher.Text.Utf8

/-!
Bodies of replies. A body is text in the encoding that its reply names, unless it starts with a byte order mark. As
JSON it is read from its bytes, whatever encoding is named.
-/
namespace AppLauncher.Http

open Json (Outline)

/-- How the bytes of a text are to be read. The encodings other than those of Unicode are given by their decoders. -/
inductive Encoding where
  | utf8
  | utf16 (bigEndian : Bool)
  | other (decode : ByteArray → String)

/-- What comes after the head of a reply. It may break off before its end. -/
inductive Body where
  | whole (bytes : ByteArray) (encoding : Encoding := .utf8)
  | brokenOff

instance : Coe ByteArray Body := ⟨fun bytes => .whole bytes⟩

namespace Encoding

def decode : Encoding → List UInt8 → String
  | utf8, bytes => Text.ofBytes ⟨bytes.toArray⟩
  | utf16 bigEndian, bytes => String.ofList (Text.Utf16.decode bigEndian bytes)
  | other decode, bytes => decode ⟨bytes.toArray⟩

/-- The byte order marks, with the encodings that they tell. -/
def marks : List (List UInt8 × Encoding) :=
  [([0xEF, 0xBB, 0xBF], utf8), ([0xFE, 0xFF], utf16 true), ([0xFF, 0xFE], utf16 false)]

/-- The text of bytes without the mark that they may start with. -/
def text (encoding : Encoding) (bytes : List UInt8) : String :=
  match marks.find? fun (mark, _) => mark.isPrefixOf bytes with
  | some (mark, told) => told.decode (bytes.drop mark.length)
  | none => encoding.decode bytes

end Encoding

namespace Body

def empty : Body := whole .empty

/-- The text of a body. -/
def text? : Body → Option String
  | whole bytes encoding => some (encoding.text bytes.data.toList)
  | brokenOff => none

/-- The outline of a body that is JSON. -/
def outline? : Body → Option Outline
  | whole bytes _ => Outline.ofBytes? bytes
  | brokenOff => none

end Body

end AppLauncher.Http
