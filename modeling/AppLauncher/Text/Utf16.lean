import AppLauncher.Text.Utf8

/-!
Text from bytes in UTF-16, in either order of the bytes. A character is one unit of two bytes, or a pair of units of
which the first one is high and the second one is low.
-/
namespace AppLauncher.Text.Utf16

/-- The unit that two bytes are. -/
def unit (bigEndian : Bool) (a b : UInt8) : Nat :=
  if bigEndian then a.toNat * 256 + b.toNat else b.toNat * 256 + a.toNat

def isHigh (n : Nat) : Bool := 0xD800 ≤ n && n ≤ 0xDBFF

def isLow (n : Nat) : Bool := 0xDC00 ≤ n && n ≤ 0xDFFF

/-- The value of a pair of units. -/
def joined (high low : Nat) : Nat := 0x10000 + (high - 0xD800) * 0x400 + (low - 0xDC00)

/-- The characters of the bytes. A unit without the other one of its pair is replaced, and so is whatever is cut off at
the end. -/
def decode (bigEndian : Bool) : List UInt8 → List Char
  | [] => []
  | [_] => [replacement]
  | a :: b :: rest =>
    let n := unit bigEndian a b
    if isHigh n then
      match rest with
      | c :: d :: rest' =>
        if isLow (unit bigEndian c d) then Char.ofNat (joined n (unit bigEndian c d)) :: decode bigEndian rest'
        else replacement :: decode bigEndian (c :: d :: rest')
      | _ => [replacement]
    else if isLow n then replacement :: decode bigEndian rest
    else Char.ofNat n :: decode bigEndian rest

end AppLauncher.Text.Utf16
