import AppLauncher.Text.Digit
import AppLauncher.Text.Split
import AppLauncher.Url.Fault

/-!
IPv4 addresses in host names. An address has up to four numbers, in decimal, octal or hexadecimal;
the last number fills the places that are left. A host whose last label is a number has to be one.
-/
namespace AppLauncher.Url.Ipv4

/-- The labels of a name, between its dots. -/
def labels (name : List Char) : List (List Char) := Text.splitBy (· == '.') name

/-- The number that a label writes. A leading zero marks octal, a leading `0x` hexadecimal. -/
def number? : List Char → Option Nat
  | [] => none
  | ['0'] => some 0
  | '0' :: c :: rest =>
    if c = 'x' ∨ c = 'X' then Text.inBase? 16 rest else Text.inBase? 8 (c :: rest)
  | cs => Text.inBase? 10 cs

/-- The labels without the empty one after a final dot. -/
def withoutFinal (ls : List (List Char)) : List (List Char) :=
  if 1 < ls.length ∧ ls.getLast? = some [] then ls.dropLast else ls

/-- Whether a name has to be read as an address. -/
def isMeant (name : List Char) : Bool :=
  match (withoutFinal (labels name)).getLast? with
  | none => false
  | some label =>
    !label.isEmpty && label.all Char.isDigit || (number? label).isSome

/-- The address of the numbers before the last one and of the last one. -/
def combined (heads : List Nat) (last : Nat) : Nat :=
  heads.zipIdx.foldl (fun address (n, place) => address + n * Nat.pow 256 (3 - place)) last

def ofNumbers? (numbers : List Nat) : Option Nat :=
  match numbers.getLast? with
  | none => none
  | some last =>
    let heads := numbers.dropLast
    if numbers.length ≤ 4 ∧ last < Nat.pow 256 (4 - heads.length) ∧ heads.all (· < 256) then
      some (combined heads last)
    else none

/-- The address that a name writes. -/
def read (name : List Char) : Except Fault Nat :=
  match (withoutFinal (labels name)).mapM number? with
  | none => .error .badIpv4
  | some numbers =>
    match ofNumbers? numbers with
    | none => .error .badIpv4
    | some address => .ok address

/-- An address as four decimal numbers. -/
def chars (address : Nat) : List Char :=
  let byte := fun place => Nat.toDigits 10 (address / Nat.pow 256 place % 256)
  byte 3 ++ '.' :: byte 2 ++ '.' :: byte 1 ++ '.' :: byte 0

end AppLauncher.Url.Ipv4
