/-!
Digits, in decimal and in hexadecimal.
-/
namespace AppLauncher.Text

/-- The value of a hexadecimal digit, in letters of either case. -/
def hexValue? (c : Char) : Option Nat :=
  if '0' ≤ c ∧ c ≤ '9' then some (c.toNat - 48)
  else if 'a' ≤ c ∧ c ≤ 'f' then some (c.toNat - 87)
  else if 'A' ≤ c ∧ c ≤ 'F' then some (c.toNat - 55)
  else none

/-- The hexadecimal digit of a number below sixteen, in lower case. -/
def hexDigit (n : Nat) : Char := Nat.digitChar n

/-- The same digit in upper case. -/
def upperHexDigit (n : Nat) : Char := if n < 10 then Char.ofNat (48 + n) else Char.ofNat (55 + n)

def isHexDigit (c : Char) : Bool := (hexValue? c).isSome

/-- The number that digits write in a base, if every one of them is a digit of it. -/
def inBase? (base : Nat) (cs : List Char) : Option Nat :=
  cs.foldlM (fun value c =>
    match hexValue? c with
    | some d => if d < base then some (value * base + d) else none
    | none => none) 0

end AppLauncher.Text
