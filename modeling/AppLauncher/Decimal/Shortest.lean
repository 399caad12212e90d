/-!
The shortest decimal of a binary floating-point number: of the decimals that read back to the
number, those with the fewest digits, and of these the nearest. All comparisons are between
natural numbers.
-/
namespace AppLauncher.Decimal

/-- A finite binary64 magnitude, `m * 2 ^ q`. Below a power of two the next number is only half as
far as above it. -/
structure Binary where
  m : Nat
  q : Int
  narrowBelow : Bool

/-- The magnitude that the bits of a finite number stand for. -/
def Binary.ofBits (bits : UInt64) : Binary :=
  let exponent := ((bits >>> 52) &&& 0x7FF).toNat
  let fraction := (bits &&& 0xFFFFFFFFFFFFF).toNat
  if exponent = 0 then ⟨fraction, -1074, false⟩
  else ⟨0x10000000000000 + fraction, (exponent : Int) - 1075, fraction = 0 && exponent > 1⟩

/-- The decimal `digits * 10 ^ exponent`. -/
structure Scaled where
  digits : Nat
  exponent : Int
deriving DecidableEq

/-- Compares `a * 10 ^ i` with `n * 2 ^ j`. -/
def compareScaled (a : Nat) (i : Int) (n : Nat) (j : Int) : Ordering :=
  compare (a * Nat.pow 10 i.toNat * Nat.pow 2 (-j).toNat)
    (n * Nat.pow 2 j.toNat * Nat.pow 10 (-i).toNat)

/-- Whether a decimal reads back: it lies no further from the number than halfway to a neighbour,
and exactly halfway only if the number is the even one. -/
def Binary.readsBack (x : Binary) (d : Scaled) : Bool :=
  let low := if x.narrowBelow then 4 * x.m - 1 else 4 * x.m - 2
  let even := x.m % 2 = 0
  let atLow := compareScaled d.digits d.exponent low (x.q - 2)
  let atHigh := compareScaled d.digits d.exponent (4 * x.m + 2) (x.q - 2)
  (atLow = .gt || (even && atLow = .eq)) && (atHigh = .lt || (even && atHigh = .eq))

/-- The number of places before the decimal point: the least `k` with `x < 10 ^ k`. -/
def Binary.places (x : Binary) : Int :=
  let guess := ((Nat.log2 x.m : Int) + x.q) * 30103 / 100000
  let fits := fun k : Int => compareScaled 1 k x.m x.q = .gt
  if fits (guess - 1) then guess - 1
  else if fits guess then guess
  else if fits (guess + 1) then guess + 1
  else guess + 2

/-- The greatest multiple of `10 ^ exponent` that is not above the number. -/
def Binary.below (x : Binary) (exponent : Int) : Nat :=
  (x.m * Nat.pow 2 x.q.toNat * Nat.pow 10 (-exponent).toNat) /
    (Nat.pow 10 exponent.toNat * Nat.pow 2 (-x.q).toNat)

/-- Of the two neighbours of the number on a decimal grid, the one that reads back; if both do, the
nearer one, and of two equally near ones the even one. -/
def Binary.onGrid? (x : Binary) (exponent : Int) : Option Scaled :=
  let lower := x.below exponent
  let candidates := [lower, lower + 1].filter fun d => x.readsBack ⟨d, exponent⟩
  match candidates with
  | [] => none
  | [d] => some ⟨d, exponent⟩
  | _ =>
    match compareScaled (2 * lower + 1) exponent (2 * x.m) x.q with
    | .lt => some ⟨lower + 1, exponent⟩
    | .gt => some ⟨lower, exponent⟩
    | .eq => some ⟨if lower % 2 = 0 then lower else lower + 1, exponent⟩

/-- The first grid with a decimal that reads back, from `digits` digits on. -/
def Binary.search (x : Binary) (places : Int) : (grids digits : Nat) → Scaled
  | 0, _ => ⟨x.m * Nat.pow 2 x.q.toNat * Nat.pow 5 (-x.q).toNat, if x.q < 0 then x.q else 0⟩
  | grids + 1, digits =>
    match x.onGrid? (places - digits) with
    | some d => d
    | none => x.search places grids (digits + 1)

/-- A decimal without zeros at its end. -/
def Scaled.stripped : (zeros : Nat) → Scaled → Scaled
  | 0, d => d
  | zeros + 1, d =>
    if d.digits % 10 = 0 ∧ d.digits ≠ 0 then
      Scaled.stripped zeros ⟨d.digits / 10, d.exponent + 1⟩
    else d

/-- The shortest decimal of a finite number other than zero. Seventeen digits always read back. -/
def shortest (bits : UInt64) : Scaled :=
  let x := Binary.ofBits bits
  Scaled.stripped 17 (x.search x.places 17 1)

end AppLauncher.Decimal
