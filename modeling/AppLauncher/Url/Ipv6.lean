import AppLauncher.Url.Ipv4

/-!
IPv6 addresses. An address has eight groups of sixteen bits. Once, a run of groups that are zero may
be written as two colons, and the last two groups may be written as an IPv4 address.
-/
namespace AppLauncher.Url.Ipv6

/-- The parts of a text between single colons. -/
def parts (cs : List Char) : List (List Char) := Text.splitBy (· == ':') cs

/-- The text before the first double colon, and the text after it. -/
def halves : List Char → List Char × Option (List Char)
  | ':' :: ':' :: rest => ([], some rest)
  | c :: rest => ((c :: (halves rest).1), (halves rest).2)
  | [] => ([], none)

/-- One group: up to four hexadecimal digits. -/
def group? (cs : List Char) : Option Nat :=
  if 1 ≤ cs.length ∧ cs.length ≤ 4 then Text.inBase? 16 cs else none

/-- A decimal number of a dotted part: at most 255, without leading zeros. -/
def byte? (cs : List Char) : Option Nat :=
  match cs with
  | [] => none
  | ['0'] => some 0
  | '0' :: _ => none
  | cs => (Text.inBase? 10 cs).filter (· < 256)

/-- The two groups of four dotted numbers. -/
def dotted? (cs : List Char) : Option (List Nat) :=
  match (Ipv4.labels cs).mapM byte? with
  | some [a, b, c, d] => some [a * 256 + b, c * 256 + d]
  | _ => none

/-- The groups of a part; the last part may be dotted if it ends the address. -/
def groups? (isEnd : Bool) : List (List Char) → Option (List Nat)
  | [] => some []
  | [part] =>
    if isEnd && part.contains '.' then dotted? part else (group? part).map fun g => [g]
  | part :: more => do
    let g ← group? part
    let gs ← groups? isEnd more
    return g :: gs

/-- The groups of a text that may be empty. -/
def side? (isEnd : Bool) (cs : List Char) : Option (List Nat) :=
  if cs.isEmpty then some [] else groups? isEnd (parts cs)

/-- The eight groups that a text writes. -/
def groupsOf? (cs : List Char) : Option (List Nat) :=
  match halves cs with
  | (whole, none) => (groups? true (parts whole)).filter (·.length = 8)
  | (before, some after) => do
    let before ← side? false before
    let after ← side? true after
    if before.length + after.length ≤ 7 then
      return before ++ List.replicate (8 - before.length - after.length) 0 ++ after
    else none

def read (cs : List Char) : Except Fault (List Nat) :=
  match groupsOf? cs with
  | none => .error .badIpv6
  | some groups => .ok groups

/-- The number of zeros at the start. -/
def zeros (groups : List Nat) : Nat := (groups.takeWhile (· = 0)).length

/-- The place and the length of the longest run of zeros, the first of equal ones. -/
def longest : Nat → List Nat → Nat × Nat
  | place, [] => (place, 0)
  | place, g :: rest =>
    let later := longest (place + 1) rest
    if later.2 ≤ zeros (g :: rest) then (place, zeros (g :: rest)) else later

def hex (g : Nat) : List Char := Nat.toDigits 16 g

/-- Groups, joined by colons. -/
def joined (groups : List Nat) : List Char := [':'].intercalate (groups.map hex)

/-- An address in its shortest form. A single zero is not shortened. -/
def chars (groups : List Nat) : List Char :=
  let (place, length) := longest 0 groups
  if length < 2 then joined groups
  else joined (groups.take place) ++ ':' :: ':' :: joined (groups.drop (place + length))

end AppLauncher.Url.Ipv6
