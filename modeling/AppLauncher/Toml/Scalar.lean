import AppLauncher.Text.Digit
import AppLauncher.Toml.Basic

/-!
TOML numbers and times. Digits may be grouped by single underscores; an integer has 64 bits, a float
may not be too large for a double, and a date has to be one of the calendar.
-/
namespace AppLauncher.Toml.Scalar

/-- The characters of something read from the front, and the rest. -/
abbrev Part := Option (List Char × List Char)

/-- One part after the other. -/
def andThen (first second : List Char → Part) (cs : List Char) : Part := do
  let (a, rest) ← first cs
  let (b, rest) ← second rest
  return (a ++ b, rest)

/-- A part that may be missing. -/
def optionally (part : List Char → Part) (cs : List Char) : Part :=
  match part cs with
  | none => some ([], cs)
  | read => read

def one (accepts : Char → Bool) : List Char → Part
  | c :: rest => if accepts c then some ([c], rest) else none
  | [] => none

/-- Digits after a digit; a single underscore may stand before each. -/
def moreDigits (accepts : Char → Bool) : List Char → List Char × List Char
  | [] => ([], [])
  | [c] => if accepts c then ([c], []) else ([], [c])
  | c :: d :: rest =>
    if accepts c then
      let (ds, rest) := moreDigits accepts (d :: rest)
      (c :: ds, rest)
    else if c = '_' ∧ accepts d then
      let (ds, rest) := moreDigits accepts rest
      (d :: ds, rest)
    else ([], c :: d :: rest)

/-- Digits without the underscores between them. -/
def digits (accepts : Char → Bool) : List Char → Part
  | c :: rest =>
    if accepts c then
      let (ds, rest) := moreDigits accepts rest
      some (c :: ds, rest)
    else none
  | [] => none

def sign : List Char → Part := optionally (one fun c => c == '+' || c == '-')

/-- A decimal magnitude, which does not start with a zero unless it is zero. -/
def magnitude : List Char → Part
  | '0' :: rest => some (['0'], rest)
  | cs => digits Char.isDigit cs

/-! ### Floats -/

def fraction : List Char → Part := andThen (one (· == '.')) (digits Char.isDigit)

def exponent : List Char → Part :=
  andThen (one fun c => c == 'e' || c == 'E') (andThen sign (digits Char.isDigit))

/-- What makes a decimal a float. -/
def floatEnd (cs : List Char) : Part :=
  match exponent cs with
  | some read => some read
  | none => andThen fraction (optionally exponent) cs

def word (text : List Char) (cs : List Char) : Part :=
  if text.isPrefixOf cs then some (text, cs.drop text.length) else none

def special (cs : List Char) : Part :=
  match word ['i', 'n', 'f'] cs with
  | some read => some read
  | none => word ['n', 'a', 'n'] cs

def natOf (ds : List Char) : Nat := Nat.ofDigitChars 10 (ds.filter Char.isDigit) 0

/-- The exponent that ends a float. -/
def exponentOf (cs : List Char) : Int :=
  match cs.dropWhile fun c => c != 'e' && c != 'E' with
  | _ :: '-' :: ds => -(natOf ds : Int)
  | _ :: ds => natOf ds
  | [] => 0

/-- The half-way point above the largest double. -/
def limit : Nat := (Nat.pow 2 54 - 1) * Nat.pow 2 970

/-- Whether a float without sign is too large for a double. -/
def overflows (cs : List Char) : Bool :=
  let whole := cs.takeWhile Char.isDigit
  let fraction := match cs.dropWhile Char.isDigit with
    | '.' :: rest => rest.takeWhile Char.isDigit
    | _ => []
  let significand := natOf (whole ++ fraction)
  let shift := exponentOf cs - fraction.length
  let size : Int := (Nat.toDigits 10 significand).length + shift
  if significand = 0 ∨ size < 300 then false
  else if 400 < size then true
  else if 0 ≤ shift then decide (limit ≤ significand * Nat.pow 10 shift.toNat)
  else decide (limit * Nat.pow 10 (-shift).toNat ≤ significand)

/-- A float. A negative one is never too large. -/
def float (cs : List Char) : Option (Toml × List Char) := do
  let (sign, rest) ← sign cs
  match special rest with
  | some (name, rest) => return (.float (String.ofList (sign ++ name)), rest)
  | none =>
    let (text, rest) ← andThen magnitude floatEnd rest
    if sign ≠ ['-'] ∧ overflows text then none
    else return (.float (String.ofList (sign ++ text)), rest)

/-! ### Integers -/

/-- An integer that fits into 64 bits with sign. -/
def fitting (value : Int) : Option Toml :=
  if -0x8000000000000000 ≤ value ∧ value < 0x8000000000000000 then some (.integer value)
  else none

def based (base : Nat) (accepts : Char → Bool) (cs : List Char) : Option (Toml × List Char) := do
  let (ds, rest) ← digits accepts cs
  return (← fitting (← Text.inBase? base ds), rest)

def decimal (cs : List Char) : Option (Toml × List Char) := do
  let (sign, rest) ← sign cs
  let (ds, rest) ← magnitude rest
  let value : Int := natOf ds
  return (← fitting (if sign = ['-'] then -value else value), rest)

def integer : List Char → Option (Toml × List Char)
  | '0' :: 'x' :: rest => based 16 Text.isHexDigit rest
  | '0' :: 'o' :: rest => based 8 (fun c => '0' ≤ c && c ≤ '7') rest
  | '0' :: 'b' :: rest => based 2 (fun c => c == '0' || c == '1') rest
  | cs => decimal cs

/-! ### Times -/

/-- So many digits whose number is in a range. -/
def field (size least most : Nat) (cs : List Char) : Option (Nat × List Char) :=
  let ds := cs.take size
  if ds.length = size ∧ ds.all Char.isDigit ∧ least ≤ natOf ds ∧ natOf ds ≤ most then
    some (natOf ds, cs.drop size)
  else none

def mark (c : Char) : List Char → Option (List Char)
  | d :: rest => if d = c then some rest else none
  | [] => none

def isLeap (year : Nat) : Bool := year % 4 == 0 && (year % 100 != 0 || year % 400 == 0)

def daysOf (year month : Nat) : Nat :=
  if month = 2 then (if isLeap year then 29 else 28)
  else if month = 4 ∨ month = 6 ∨ month = 9 ∨ month = 11 then 30
  else 31

/-- A date; returns what follows it. -/
def date (cs : List Char) : Option (List Char) := do
  let (year, rest) ← field 4 0 9999 cs
  let (month, rest) ← field 2 1 12 (← mark '-' rest)
  let (_, rest) ← field 2 1 (daysOf year month) (← mark '-' rest)
  return rest

/-- The digits after the seconds, if there are any. -/
def subseconds (cs : List Char) : Option (List Char) :=
  match cs with
  | '.' :: rest =>
    if (rest.takeWhile Char.isDigit).isEmpty then none else some (rest.dropWhile Char.isDigit)
  | rest => some rest

def time (cs : List Char) : Option (List Char) := do
  let (_, rest) ← field 2 0 23 cs
  let (_, rest) ← field 2 0 59 (← mark ':' rest)
  let (_, rest) ← field 2 0 60 (← mark ':' rest)
  subseconds rest

def offset : List Char → Option (List Char)
  | c :: rest =>
    if c = 'Z' ∨ c = 'z' then some rest
    else if c = '+' ∨ c = '-' then do
      let (_, rest) ← field 2 0 23 rest
      let (_, rest) ← field 2 0 59 (← mark ':' rest)
      return rest
    else none
  | [] => none

/-- The time of day after a date and the letter or space between them. -/
def timeAfterDate : List Char → Option (List Char)
  | c :: rest =>
    if c = 'T' ∨ c = 't' ∨ c = ' ' then (time rest).map fun rest => (offset rest).getD rest
    else none
  | [] => none

/-- A date, a time of day, or both. -/
def momentEnd (cs : List Char) : Option (List Char) :=
  match date cs with
  | some rest => some ((timeAfterDate rest).getD rest)
  | none => time cs

def moment (cs : List Char) : Option (Toml × List Char) :=
  (momentEnd cs).map fun rest =>
    (.moment (String.ofList (cs.take (cs.length - rest.length))), rest)

/-- A number or a time. -/
def read (cs : List Char) : Option (Toml × List Char) :=
  match moment cs, float cs with
  | some read, _ => some read
  | none, some read => some read
  | none, none => integer cs

end AppLauncher.Toml.Scalar
