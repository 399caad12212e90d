import AppLauncher.Decimal.Shortest

/-!
JSON numbers. A number without fraction and exponent is kept exactly if it fits into 64 bits with or
without sign; every other number is a double. A number too large for a double is no number.
-/
namespace AppLauncher.Json

/-- A number is an exact integer or a double, given by its bits. -/
inductive Number where
  | integer (value : Int)
  | double (bits : UInt64)
deriving DecidableEq, Inhabited

/-- A number as it stands in a text. -/
structure Numeral where
  negative : Bool
  whole : List Char
  fraction : List Char := []
  exponent : Option (Bool × List Char) := none
deriving DecidableEq

namespace Numeral

def digitValue (c : Char) : Nat := c.toNat - 48

/-- One more than the largest significand. -/
def limit : Nat := 0x10000000000000000

/-- The value of the digits that fit after the significand, and the digits left over. -/
def gather (significand : Nat) : List Char → Nat × List Char
  | [] => (significand, [])
  | c :: rest =>
    let next := significand * 10 + digitValue c
    if next < limit then gather next rest else (significand, c :: rest)

/-- The power of ten, rounded to a double. -/
def power (n : Nat) : Float := Float.ofScientific 1 false n

/-- A double divided by a power of ten, in steps that each have an exact enough divisor. -/
def scaleDown (f : Float) (n : Nat) : Float :=
  if n ≤ 308 then f / power n
  else if f == 0 then f
  else scaleDown (f / power 308) (n - 308)
termination_by n

/-- A significand times a power of ten, unless that is too large for a double. -/
def scaled? (significand : Nat) (exponent : Int) : Option Float :=
  let f := significand.toUInt64.toFloat
  if exponent < 0 then some (scaleDown f exponent.natAbs)
  else if exponent ≤ 308 then
    let product := f * power exponent.natAbs
    if product.isInf then none else some product
  else if significand = 0 then some f
  else none

/-- The double nearest to a numeral, as far as twenty significant digits tell. -/
def double? (n : Numeral) : Option Number :=
  let (head, spilled) := gather 0 n.whole
  let (significand, dropped) := gather head n.fraction
  let shift : Int := spilled.length - (n.fraction.length - dropped.length : Nat)
  let signed := fun f : Float => Number.double (if n.negative then -f else f).toBits
  match n.exponent with
  | none => (scaled? significand shift).map signed
  | some (negative, digits) =>
    let size := digits.foldl (fun acc c => acc * 10 + digitValue c) 0
    if size < 0x80000000 then
      (scaled? significand (if negative then shift - size else shift + size)).map signed
    else if significand = 0 ∨ negative then some (signed 0)
    else none

/-- The number that a numeral stands for. -/
def value? (n : Numeral) : Option Number :=
  if n.fraction.isEmpty ∧ n.exponent.isNone then
    let size := Nat.ofDigitChars 10 n.whole 0
    if n.negative then
      if 0 < size ∧ size ≤ 0x8000000000000000 then some (.integer (-size)) else n.double?
    else
      if size < limit then some (.integer size) else n.double?
  else n.double?

end Numeral

namespace Number

def digits (n : Nat) : List Char := Nat.toDigits 10 n

def ofInt : Int → List Char
  | .ofNat n => digits n
  | .negSucc n => '-' :: digits (n + 1)

/-- A decimal laid out: positional while the decimal point stands at most four zeros before the
digits or sixteen places after their start, otherwise with an exponent; always with a decimal
point or an exponent, so that a double reads back as a double. -/
def layout (d : Decimal.Scaled) : List Char :=
  let ds := digits d.digits
  let point : Int := ds.length + d.exponent
  if 0 ≤ d.exponent ∧ point ≤ 16 then
    ds ++ List.replicate d.exponent.toNat '0' ++ ['.', '0']
  else if 0 < point ∧ point ≤ 16 then
    ds.take point.toNat ++ '.' :: ds.drop point.toNat
  else if -5 < point ∧ point ≤ 0 then
    '0' :: '.' :: List.replicate (-point).toNat '0' ++ ds
  else
    let mantissa := match ds with
      | [] => []
      | [c] => [c]
      | c :: rest => c :: '.' :: rest
    mantissa ++ 'e' :: ofInt (point - 1)

def ofDouble (bits : UInt64) : List Char :=
  let magnitude := bits &&& 0x7FFFFFFFFFFFFFFF
  let text := if magnitude = 0 then ['0', '.', '0'] else layout (Decimal.shortest magnitude)
  if bits = magnitude then text else '-' :: text

/-- The text of a number. -/
def chars : Number → List Char
  | .integer value => ofInt value
  | .double bits => ofDouble bits

end Number

end AppLauncher.Json
