import AppLauncher.Json.Printer
import AppLauncher.Json.Reader
import AppLauncher.Proofs.Decimal.Rounding
import AppLauncher.Proofs.Decimal.Shortest
import Mathlib.Data.List.TakeWhile
import Mathlib.Tactic.SplitIfs

/-!
Numbers in a text. Whatever is written for a number is read as a number again, but not always as the same one, since the
reader does not round correctly. Integers come back, and so do the doubles that are written with a few digits.
-/
namespace AppLauncher.Json

/-! ### Digits -/

namespace Number

theorem exists_digits (n : Nat) : ∃ c cs, digits n = c :: cs :=
  List.exists_cons_of_ne_nil Nat.toDigits_ne_nil

theorem ofDigitChars_digits (n : Nat) : Nat.ofDigitChars 10 (digits n) 0 = n :=
  Nat.ofDigitChars_ten_toDigits

theorem isDigit_of_mem_digits {n : Nat} {c : Char} (member : c ∈ digits n) : c.isDigit :=
  Nat.isDigit_of_mem_toDigits (by decide) (by decide) member

/-- Digits start with a zero only if there is nothing else. -/
theorem digits_of_zero {n : Nat} {ds : List Char} (start : digits n = '0' :: ds) : ds = [] := by
  induction n using Nat.strongRecOn generalizing ds with
  | ind n ih =>
    by_cases small : n < 10
    · have single : digits n = [n.digitChar] := Nat.toDigits_of_lt_base small
      rw [single] at start
      exact (List.cons.inj start).2.symm
    have parts : digits n = digits (n / 10) ++ [(n % 10).digitChar] :=
      Nat.toDigits_of_base_le (by decide) (by omega)
    obtain ⟨c, cs, front⟩ := exists_digits (n / 10)
    rw [parts, front, List.cons_append] at start
    rw [(List.cons.inj start).1] at front
    rw [ih (n / 10) (by omega) front] at front
    have none : n / 10 = 0 := by
      rw [← ofDigitChars_digits (n / 10), front]
      decide
    omega

end Number

namespace Reader

variable {cs rest : List Char}

/-! ### Numbers -/

/-- A text before which digits end. -/
def Ends (rest : List Char) : Prop := ∀ c ∈ rest.head?, c.isDigit = false

/-- A text before which a number ends. -/
def Stops (rest : List Char) : Prop :=
  ∀ c ∈ rest.head?, c.isDigit = false ∧ c ≠ '.' ∧ c ≠ 'e' ∧ c ≠ 'E'

theorem stops_cons {c : Char} (ends : c.isDigit = false ∧ c ≠ '.' ∧ c ≠ 'e' ∧ c ≠ 'E') :
    Stops (c :: cs) := by
  intro d first
  cases first
  exact ends

theorem Stops.ends (stops : Stops rest) : Ends rest := fun c first => (stops c first).1

theorem stops_itemChars (items : List Json) (rest : List Char) : Stops (itemChars items ++ rest) := by
  cases items <;> exact stops_cons (by decide)

theorem stops_fieldChars (fields : List (String × Json)) (rest : List Char) :
    Stops (fieldChars fields ++ rest) := by
  cases fields <;> exact stops_cons (by decide)

theorem exponentSign_append (c : Char) (cs : List Char) :
    exponentSign (c :: cs ++ rest) = ((exponentSign (c :: cs)).1, (exponentSign (c :: cs)).2 ++ rest) := by
  by_cases minus : c = '-'
  · subst minus
    rfl
  · by_cases plus : c = '+'
    · subst plus
      rfl
    · simp [exponentSign, minus, plus]

section Append

theorem takeWhile_append (ends : Ends rest) (cs : List Char) :
    (cs ++ rest).takeWhile Char.isDigit = cs.takeWhile Char.isDigit := by
  induction cs with
  | nil =>
    cases rest with
    | nil => rfl
    | cons c rest => simp [ends c rfl]
  | cons c cs ih => simp only [List.cons_append, List.takeWhile_cons, ih]

theorem dropWhile_append (ends : Ends rest) (cs : List Char) :
    (cs ++ rest).dropWhile Char.isDigit = cs.dropWhile Char.isDigit ++ rest := by
  induction cs with
  | nil =>
    cases rest with
    | nil => rfl
    | cons c rest => simp [ends c rfl]
  | cons c cs ih =>
    simp only [List.cons_append, List.dropWhile_cons, ih]
    split <;> rfl

theorem whole_append {ds tail : List Char} (ends : Ends rest) (read : whole cs = some (ds, tail)) :
    whole (cs ++ rest) = some (ds, tail ++ rest) := by
  unfold whole at read ⊢
  rw [takeWhile_append ends, dropWhile_append ends]
  split at read <;> simp_all

variable (stops : Stops rest)
include stops

theorem fraction_of_stops : fraction rest = some ([], rest) := by
  unfold fraction
  split
  next => exact absurd rfl (stops _ rfl).2.1
  next => rfl

theorem exponent_of_stops : exponent rest = some (none, rest) := by
  cases rest with
  | nil => rfl
  | cons c rest =>
    have ⟨_, _, lower, upper⟩ := stops c rfl
    simp [exponent, lower, upper]

theorem fraction_append {ds tail : List Char} (read : fraction cs = some (ds, tail)) :
    fraction (cs ++ rest) = some (ds, tail ++ rest) := by
  cases cs with
  | nil =>
    cases read
    exact fraction_of_stops stops
  | cons c cs =>
    by_cases point : c = '.'
    · subst point
      simp only [fraction, List.cons_append, takeWhile_append stops.ends, dropWhile_append stops.ends] at read ⊢
      split at read <;> simp_all
    · have plain (cs : List Char) : fraction (c :: cs) = some ([], c :: cs) := by
        simp [fraction, point]
      rw [plain] at read
      cases read
      exact plain _

theorem exponent_append {power : Option (Bool × List Char)} {tail : List Char}
    (read : exponent cs = some (power, tail)) : exponent (cs ++ rest) = some (power, tail ++ rest) := by
  cases cs with
  | nil =>
    cases read
    exact exponent_of_stops stops
  | cons c cs =>
    simp only [exponent, List.cons_append] at read ⊢
    split_ifs at read ⊢ with letter
    · cases cs with
      | nil => cases read
      | cons d cs =>
        rw [exponentSign_append]
        simp only [takeWhile_append stops.ends, dropWhile_append stops.ends]
        split at read <;> simp_all
    · cases read
      rfl

theorem magnitude_append {negative : Bool} {numeral : Numeral} {tail : List Char}
    (read : magnitude negative cs = some (numeral, tail)) :
    magnitude negative (cs ++ rest) = some (numeral, tail ++ rest) := by
  simp only [magnitude, Option.bind_eq_bind, Option.bind_eq_some_iff, Option.pure_def, Option.some_inj] at read ⊢
  obtain ⟨⟨ds, afterWhole⟩, whole, ⟨fs, afterFraction⟩, fraction, ⟨power, afterPower⟩, exponent, same⟩ := read
  cases same
  exact ⟨_, whole_append stops.ends whole, _, fraction_append stops fraction, _, exponent_append stops exponent, rfl⟩

/-- What follows a number does not matter if the number ends there. -/
theorem numeral_append {numeral : Numeral} {tail : List Char} (read : Reader.numeral cs = some (numeral, tail)) :
    Reader.numeral (cs ++ rest) = some (numeral, tail ++ rest) := by
  cases cs with
  | nil => cases read
  | cons c cs =>
    by_cases sign : c = '-'
    · subst sign
      exact magnitude_append stops read
    · have plain (cs : List Char) : Reader.numeral (c :: cs) = magnitude false (c :: cs) := by
        simp [Reader.numeral, sign]
      rw [plain] at read
      rw [List.cons_append, plain]
      exact magnitude_append stops read

end Append

/-- A number starts with a sign or a digit. -/
theorem numeral_start {numeral : Numeral} {tail : List Char} (read : Reader.numeral cs = some (numeral, tail)) :
    ∃ c rest, cs = c :: rest ∧ (c = '-' ∨ c.isDigit) := by
  cases cs with
  | nil => cases read
  | cons c cs =>
    refine ⟨c, cs, rfl, ?_⟩
    by_cases sign : c = '-'
    · exact .inl sign
    · by_contra other
      have none : whole (c :: cs) = none := by simp_all [whole]
      simp [Reader.numeral, sign, magnitude, none] at read

/-- A sign is no part of a magnitude. -/
theorem numeral_of_magnitude {numeral : Numeral} (read : magnitude false cs = some (numeral, rest)) :
    Reader.numeral cs = some (numeral, rest) := by
  unfold Reader.numeral
  split
  next others =>
    have none : whole ('-' :: others) = none := rfl
    simp [magnitude, none] at read
  next => exact read

/-! ### Parts -/

section Parts

variable {ds : List Char}

theorem takeWhile_digits (plain : ∀ c ∈ ds, c.isDigit) (ends : Ends rest) :
    (ds ++ rest).takeWhile Char.isDigit = ds := by
  rw [takeWhile_append ends]
  exact List.takeWhile_eq_self_iff.mpr plain

theorem dropWhile_digits (plain : ∀ c ∈ ds, c.isDigit) (ends : Ends rest) :
    (ds ++ rest).dropWhile Char.isDigit = rest := by
  rw [dropWhile_append ends, List.dropWhile_eq_nil_iff.mpr plain, List.nil_append]

/-- Digits that may stand before the decimal point. -/
structure IsWhole (ds : List Char) : Prop where
  filled : ds ≠ []
  plain : ∀ c ∈ ds, c.isDigit
  single : ∀ others, ds = '0' :: others → others = []

theorem isWhole_digits (n : Nat) : IsWhole (Number.digits n) where
  filled := Nat.toDigits_ne_nil
  plain _ member := Number.isDigit_of_mem_digits member
  single _ start := Number.digits_of_zero start

theorem isWhole_cons {c : Char} (plain : ∀ d ∈ c :: ds, d.isDigit) (lead : c ≠ '0') : IsWhole (c :: ds) :=
  ⟨List.cons_ne_nil c ds, plain, fun _ start => absurd (List.cons.inj start).1 lead⟩

theorem IsWhole.read (isWhole : IsWhole ds) (ends : Ends rest) : whole (ds ++ rest) = some (ds, rest) := by
  unfold whole
  rw [takeWhile_digits isWhole.plain ends, dropWhile_digits isWhole.plain ends]
  split
  next empty => exact absurd rfl isWhole.filled
  next => rfl
  next others onwards => exact absurd (isWhole.single others rfl) (by simpa using onwards)
  next => rfl

theorem fraction_point (filled : ds ≠ []) (plain : ∀ c ∈ ds, c.isDigit) (ends : Ends rest) :
    fraction ('.' :: (ds ++ rest)) = some (ds, rest) := by
  simp only [fraction, takeWhile_digits plain ends, dropWhile_digits plain ends]

theorem exponent_sign {negative : Bool} (filled : ds ≠ []) (plain : ∀ c ∈ ds, c.isDigit)
    (sign : exponentSign cs = (negative, ds)) : exponent ('e' :: cs) = some (some (negative, ds), []) := by
  have ends : Ends [] := by simp [Ends]
  have taken := takeWhile_digits plain ends
  have dropped := dropWhile_digits plain ends
  rw [List.append_nil] at taken dropped
  obtain ⟨c, others, rfl⟩ := List.exists_cons_of_ne_nil filled
  simp only [exponent, true_or, if_true, sign, taken, dropped]

theorem exponent_ofInt (k : Int) :
    exponent ('e' :: Number.ofInt k) = some (some (decide (k < 0), Number.digits k.natAbs), []) := by
  cases k with
  | ofNat n =>
    have positive : decide (Int.ofNat n < 0) = false := decide_eq_false (by simp)
    rw [positive]
    refine exponent_sign Nat.toDigits_ne_nil (fun _ => Number.isDigit_of_mem_digits) ?_
    obtain ⟨c, others, start⟩ := Number.exists_digits n
    have digit : c.isDigit := Number.isDigit_of_mem_digits (start ▸ List.mem_cons_self)
    have notMinus : c ≠ '-' := by
      rintro rfl
      revert digit
      decide
    have notPlus : c ≠ '+' := by
      rintro rfl
      revert digit
      decide
    change exponentSign (Number.digits n) = (false, Number.digits n)
    rw [start]
    simp [exponentSign, notMinus, notPlus]
  | negSucc n =>
    rw [decide_eq_true (Int.negSucc_lt_zero n)]
    exact exponent_sign Nat.toDigits_ne_nil (fun _ => Number.isDigit_of_mem_digits) rfl

/-- A number with a decimal point. -/
theorem magnitude_point {fs : List Char} (negative : Bool) (isWhole : IsWhole ds) (filled : fs ≠ [])
    (plain : ∀ c ∈ fs, c.isDigit) : magnitude negative (ds ++ '.' :: fs) = some (⟨negative, ds, fs, none⟩, []) := by
  have ends : Ends ('.' :: fs) := by simp [Ends]
  have point := fraction_point filled plain (show Ends [] by simp [Ends])
  rw [List.append_nil] at point
  simp [magnitude, isWhole.read ends, point, exponent]

/-- A number with an exponent. -/
theorem magnitude_exponent (negative : Bool) (isWhole : IsWhole ds) (k : Int) :
    magnitude negative (ds ++ 'e' :: Number.ofInt k) =
      some (⟨negative, ds, [], some (decide (k < 0), Number.digits k.natAbs)⟩, []) := by
  have ends : Ends ('e' :: Number.ofInt k) := by simp [Ends]
  simp [magnitude, isWhole.read ends, fraction, exponent_ofInt]

/-- A number with both. -/
theorem magnitude_point_exponent {fs : List Char} (negative : Bool) (isWhole : IsWhole ds) (filled : fs ≠ [])
    (plain : ∀ c ∈ fs, c.isDigit) (k : Int) :
    magnitude negative (ds ++ '.' :: (fs ++ 'e' :: Number.ofInt k)) =
      some (⟨negative, ds, fs, some (decide (k < 0), Number.digits k.natAbs)⟩, []) := by
  have ends : Ends ('.' :: (fs ++ 'e' :: Number.ofInt k)) := by simp [Ends]
  have point := fraction_point filled plain (show Ends ('e' :: Number.ofInt k) by simp [Ends])
  simp [magnitude, isWhole.read ends, point, exponent_ofInt]

end Parts

end Reader

/-! ### Written numbers -/

namespace Number

/-- The numeral that is written for a decimal. -/
def laidOut (negative : Bool) (d : Decimal.Scaled) : Numeral :=
  let ds := digits d.digits
  let point : Int := ds.length + d.exponent
  if 0 ≤ d.exponent ∧ point ≤ 16 then ⟨negative, ds ++ List.replicate d.exponent.toNat '0', ['0'], none⟩
  else if 0 < point ∧ point ≤ 16 then ⟨negative, ds.take point.toNat, ds.drop point.toNat, none⟩
  else if -5 < point ∧ point ≤ 0 then ⟨negative, ['0'], List.replicate (-point).toNat '0' ++ ds, none⟩
  else ⟨negative, ds.take 1, ds.drop 1, some (decide (point - 1 < 0), digits (point - 1).natAbs)⟩

theorem magnitude_layout {d : Decimal.Scaled} (filled : 0 < d.digits) (negative : Bool) :
    Reader.magnitude negative (layout d) = some (laidOut negative d, []) := by
  obtain ⟨c, cs, start⟩ := exists_digits d.digits
  have plain : ∀ other ∈ c :: cs, other.isDigit := fun _ member => isDigit_of_mem_digits (start ▸ member)
  have lead : c ≠ '0' := by
    rintro rfl
    have value := ofDigitChars_digits d.digits
    rw [start, digits_of_zero start] at value
    exact filled.ne value
  have zeros (n : Nat) : ∀ other ∈ List.replicate n '0', other.isDigit := by
    intro other member
    rw [(List.mem_replicate.mp member).2]
    rfl
  unfold layout laidOut
  dsimp only
  rw [start, List.length_cons]
  split_ifs with whole middle small
  · have isWhole : Reader.IsWhole (c :: cs ++ List.replicate d.exponent.toNat '0') :=
      Reader.isWhole_cons (List.forall_mem_append.mpr ⟨plain, zeros _⟩) lead
    exact Reader.magnitude_point negative isWhole (List.cons_ne_nil _ _) (zeros 1)
  · obtain ⟨n, position⟩ : ∃ n : Nat, (((cs.length + 1 : ℕ) : Int) + d.exponent).toNat = n + 1 :=
      ⟨(((cs.length + 1 : ℕ) : Int) + d.exponent).toNat - 1, by omega⟩
    rw [position, List.take_succ_cons, List.drop_succ_cons]
    have before : ∀ other ∈ c :: cs.take n, other.isDigit := fun other member =>
      plain other (List.cons_subset_cons c (List.take_subset n cs) member)
    have behind : ∀ other ∈ cs.drop n, other.isDigit := fun other member =>
      plain other (List.mem_cons_of_mem c (List.mem_of_mem_drop member))
    have filled : cs.drop n ≠ [] := by
      rw [Ne, List.drop_eq_nil_iff]
      omega
    exact Reader.magnitude_point negative (Reader.isWhole_cons before lead) filled behind
  · exact Reader.magnitude_point negative (Reader.isWhole_digits 0) (by simp)
      (List.forall_mem_append.mpr ⟨zeros _, plain⟩)
  · have single : Reader.IsWhole [c] := Reader.isWhole_cons (by simpa using plain c List.mem_cons_self) lead
    cases cs with
    | nil => exact Reader.magnitude_exponent negative single _
    | cons e cs =>
      have rest : ∀ other ∈ e :: cs, other.isDigit := fun other member => plain other (List.mem_cons_of_mem c member)
      exact Reader.magnitude_point_exponent negative single (List.cons_ne_nil e cs) rest _

end Number

/-! ### Values of numerals -/

namespace Numeral

/-- All digits of a numeral as one number. -/
def significand (n : Numeral) : Nat := Nat.ofDigitChars 10 (n.whole ++ n.fraction) 0

/-- The power of ten that goes with all digits of a numeral. -/
def shift (n : Numeral) : Int :=
  (match n.exponent with
    | none => 0
    | some (true, ds) => -(Nat.ofDigitChars 10 ds 0 : Int)
    | some (false, ds) => Nat.ofDigitChars 10 ds 0) - n.fraction.length

theorem le_ofDigitChars (cs : List Char) (n : Nat) : n ≤ Nat.ofDigitChars 10 cs n := by
  rw [Nat.ofDigitChars_eq_ofDigitChars_zero]
  exact Nat.le_add_right_of_le (Nat.le_mul_of_pos_left n (by positivity))

/-- No digits are left over if all of them fit. -/
theorem gather_of_lt {cs : List Char} : ∀ {n : Nat}, Nat.ofDigitChars 10 cs n < limit →
    gather n cs = (Nat.ofDigitChars 10 cs n, []) := by
  induction cs with
  | nil => exact fun _ => rfl
  | cons c cs ih =>
    intro n fits
    have next : 10 * n + (c.toNat - '0'.toNat) = n * 10 + digitValue c := by
      rw [Nat.mul_comm]
      rfl
    rw [Nat.ofDigitChars_cons, next] at fits ⊢
    rw [gather, if_pos ((le_ofDigitChars cs _).trans_lt fits), ih fits]

theorem size_eq (ds : List Char) :
    ds.foldl (fun acc c => acc * 10 + digitValue c) 0 = Nat.ofDigitChars 10 ds 0 := by
  rw [Nat.ofDigitChars_eq_foldl]
  congr 1
  funext n c
  rw [Nat.mul_comm]
  rfl

/-- The sign of a numeral, put before what its digits make. -/
def signed (n : Numeral) (f : Float) : Number := .double (if n.negative then -f else f).toBits

/-- A numeral of digits that all fit is read by its significand and its power of ten. -/
theorem double?_eq {n : Numeral} (fits : n.significand < limit)
    (near : ∀ negative ds, n.exponent = some (negative, ds) → Nat.ofDigitChars 10 ds 0 < 0x80000000) :
    n.double? = (scaled? n.significand n.shift).map n.signed := by
  unfold significand at fits
  rw [Nat.ofDigitChars_append] at fits
  have wholeFits := (le_ofDigitChars n.fraction _).trans_lt fits
  unfold double? significand shift
  rw [Nat.ofDigitChars_append, gather_of_lt wholeFits]
  dsimp only
  rw [gather_of_lt fits]
  dsimp only [List.length_nil]
  cases power : n.exponent with
  | none =>
    dsimp only
    congr 2
  | some given =>
    obtain ⟨negative, ds⟩ := given
    have small := near negative ds power
    rw [← size_eq] at small
    dsimp only
    rw [if_pos small, size_eq]
    cases negative
    · dsimp only
      congr 2
      simp
      omega
    · dsimp only
      congr 2
      simp
      omega

/-- A numeral with a point or an exponent is read as a quotient, if its power of ten is one that doubles hold. -/
theorem value?_eq_quotient {numeral : Numeral} {m n : Nat} (marked : numeral.fraction ≠ [] ∨ numeral.exponent ≠ none)
    (near : ∀ negative ds, numeral.exponent = some (negative, ds) → Nat.ofDigitChars 10 ds 0 < 0x80000000)
    (fits : m < 2 ^ 64) (positive : 0 < n) (short : n ≤ 22) (significand : numeral.significand = m)
    (shift : numeral.shift = -n) :
    numeral.value? = some (numeral.signed (m.toUInt64.toFloat / Float.ofScientific 1 false n)) := by
  have double : numeral.value? = numeral.double? := by
    rw [value?, if_neg]
    simp only [List.isEmpty_iff, Option.isNone_iff_eq_none]
    tauto
  rw [double, double?_eq (significand ▸ fits) near, significand, shift, scaled?]
  dsimp only
  rw [if_pos (by omega), Int.natAbs_neg, Int.natAbs_natCast, scaleDown, if_pos (by omega)]
  rfl

end Numeral

namespace Number

open Decimal (Scaled)

variable {d : Scaled} {negative : Bool}

theorem length_digits_le {n k : Nat} (positive : 0 < k) (few : n < 10 ^ k) : (digits n).length ≤ k :=
  (Nat.length_toDigits_le_iff (by decide) positive).mpr few

/-- A whole number of a few digits has a few places. -/
theorem whole_le (brief : d.IsBrief) (whole : 0 ≤ d.exponent) : d.digits * 10 ^ d.exponent.toNat ≤ 10 ^ 15 := by
  have small := brief.small
  rw [Scaled.value, ← Int.toNat_of_nonneg whole, zpow_natCast] at small
  exact_mod_cast small

theorem point_le (brief : d.IsBrief) (whole : 0 ≤ d.exponent) :
    ((digits d.digits).length : Int) + d.exponent ≤ 16 := by
  have small := whole_le brief whole
  have places : d.exponent.toNat ≤ 15 :=
    (Nat.pow_le_pow_iff_right (by decide)).mp ((Nat.le_mul_of_pos_left _ brief.filled).trans small)
  have few : d.digits < 10 ^ (16 - d.exponent.toNat) := by
    refine Nat.lt_of_mul_lt_mul_right (a := 10 ^ d.exponent.toNat) ?_
    rw [← pow_add, Nat.sub_add_cancel (by omega)]
    exact small.trans_lt (by decide)
  have length := length_digits_le (by omega) few
  omega

theorem negative_laidOut (negative : Bool) (d : Scaled) : (laidOut negative d).negative = negative := by
  unfold laidOut
  dsimp only
  split_ifs <;> rfl

/-- A decimal of a few digits is written without an exponent, or with a small one, and none of its digits gets lost. A
whole number gets one more digit. -/
theorem laidOut_of_isBrief (brief : d.IsBrief) (negative : Bool) :
    ((laidOut negative d).fraction ≠ [] ∨ (laidOut negative d).exponent ≠ none) ∧
      (∀ negative' ds, (laidOut negative d).exponent = some (negative', ds) → Nat.ofDigitChars 10 ds 0 < 0x80000000) ∧
      ((0 ≤ d.exponent ∧ (laidOut negative d).significand = d.digits * 10 ^ (d.exponent.toNat + 1) ∧
        (laidOut negative d).shift = -1) ∨
      d.exponent < 0 ∧ (laidOut negative d).significand = d.digits ∧ (laidOut negative d).shift = d.exponent) := by
  have few : (digits d.digits).length ≤ 16 := length_digits_le (by decide) (brief.few.trans_lt (by decide))
  have some : 0 < (digits d.digits).length := List.length_pos_of_ne_nil Nat.toDigits_ne_nil
  have fine := brief.fine
  have value := ofDigitChars_digits d.digits
  unfold laidOut
  dsimp only
  split_ifs with whole middle small
  · refine ⟨.inl (List.cons_ne_nil _ _), by simp, .inl ⟨whole.1, ?_, rfl⟩⟩
    have one : ['0'] = List.replicate 1 '0' := rfl
    rw [Numeral.significand, Nat.ofDigitChars_append, Nat.ofDigitChars_append, value, one,
      Nat.ofDigitChars_replicate_zero, Nat.ofDigitChars_replicate_zero]
    ring
  · refine ⟨.inl ?_, by simp, .inr ⟨by omega, ?_, ?_⟩⟩
    · rw [Ne, List.drop_eq_nil_iff]
      omega
    · rw [Numeral.significand, List.take_append_drop, value]
    · rw [Numeral.shift, List.length_drop]
      dsimp only
      omega
  · refine ⟨.inl (by simp [← List.length_eq_zero_iff, some.ne']), by simp, .inr ⟨by omega, ?_, ?_⟩⟩
    · have zero : Nat.ofDigitChars 10 ['0'] 0 = 0 := rfl
      rw [Numeral.significand, Nat.ofDigitChars_append, Nat.ofDigitChars_append, Nat.ofDigitChars_replicate_zero, zero,
        Nat.mul_zero, value]
    · rw [Numeral.shift, List.length_append, List.length_replicate]
      dsimp only
      omega
  · have broken : d.exponent < 0 := by
      by_contra! whole'
      exact whole ⟨whole', point_le brief whole'⟩
    have far : ((digits d.digits).length : Int) + d.exponent ≤ -5 := by omega
    have down : decide (((digits d.digits).length : Int) + d.exponent - 1 < 0) = true := decide_eq_true (by omega)
    rw [down]
    refine ⟨.inr (by simp), ?_, .inr ⟨broken, ?_, ?_⟩⟩
    · rintro negative' ds ⟨⟩
      rw [ofDigitChars_digits]
      omega
    · rw [Numeral.significand, List.take_append_drop, value]
    · rw [Numeral.shift, List.length_drop]
      dsimp only
      rw [ofDigitChars_digits]
      omega

/-- What is written for a decimal of a few digits is read as a quotient of two numbers that doubles hold. -/
theorem exists_quotient (brief : d.IsBrief) (negative : Bool) :
    ∃ c k n : Nat, 0 < c ∧ c < 2 ^ 53 ∧ c * 2 ^ k < 2 ^ 64 ∧ n ≤ 22 ∧ ((c * 2 ^ k : Nat) : ℚ) / 10 ^ n = d.value ∧
      (laidOut negative d).value? =
        some ((laidOut negative d).signed ((c * 2 ^ k).toUInt64.toFloat / Float.ofScientific 1 false n)) := by
  obtain ⟨marked, near, ⟨whole, significand, shift⟩ | ⟨broken, significand, shift⟩⟩ := laidOut_of_isBrief brief negative
  · have small := whole_le brief whole
    generalize power : d.exponent.toNat = e at small significand
    have same : d.digits * 5 ^ (e + 1) * 2 ^ (e + 1) = d.digits * 10 ^ (e + 1) := by
      rw [mul_assoc, ← Nat.mul_pow]
    have tenfold : d.digits * 10 ^ (e + 1) = d.digits * 10 ^ e * 10 := by ring
    have halved : d.digits * 5 ^ (e + 1) ≤ 5 * (d.digits * 10 ^ e) := by
      rw [pow_succ, ← mul_assoc, mul_comm]
      exact Nat.mul_le_mul_left 5 (Nat.mul_le_mul_left _ (Nat.pow_le_pow_left (by decide) e))
    have fits : d.digits * 5 ^ (e + 1) * 2 ^ (e + 1) < 2 ^ 64 := by omega
    refine ⟨d.digits * 5 ^ (e + 1), e + 1, 1, Nat.mul_pos brief.filled (by positivity), by omega, fits, by decide, ?_,
      Numeral.value?_eq_quotient marked near fits (by decide) (by decide) (significand.trans same.symm) shift⟩
    have value : d.value = d.digits * 10 ^ e := by
      rw [Scaled.value, ← Int.toNat_of_nonneg whole, power, zpow_natCast]
    rw [same, tenfold, value]
    push_cast
    ring
  · have few := brief.few
    have fine := brief.fine
    have fits : d.digits * 2 ^ 0 < 2 ^ 64 := by omega
    have same : (laidOut negative d).significand = d.digits * 2 ^ 0 := by rw [significand, pow_zero, Nat.mul_one]
    obtain ⟨n, power⟩ : ∃ n : Nat, d.exponent = -n := ⟨(-d.exponent).toNat, by omega⟩
    refine ⟨d.digits, 0, n, brief.filled, by omega, fits, by omega, ?_,
      Numeral.value?_eq_quotient marked near fits (by omega) (by omega) same (shift.trans power)⟩
    rw [Scaled.value, power, zpow_neg, zpow_natCast, div_eq_mul_inv, pow_zero, Nat.mul_one]

/-- A double that is written with a few digits is read from them. -/
theorem value?_of_isBrief {magnitude : UInt64} (unsigned : magnitude.toNat < 2 ^ 63)
    (filled : 0 < (Decimal.Binary.ofBits magnitude).m) (brief : (Decimal.shortest magnitude).IsBrief)
    (negative : Bool) :
    ∃ bits : UInt64, (laidOut negative (Decimal.shortest magnitude)).value? = some (.double bits) ∧
      bits.toNat = (if negative then 2 ^ 63 else 0) + magnitude.toNat := by
  obtain ⟨c, k, n, some, few, fits, short, value, read⟩ := exists_quotient brief negative
  have rounds : (Decimal.Binary.ofBits magnitude).Rounds (((c * 2 ^ k : Nat) : ℚ) / 10 ^ n) :=
    value ▸ (Decimal.Binary.readsBack_iff filled).mp (Decimal.readsBack_shortest filled)
  obtain ⟨positive, opposite⟩ := Decimal.toBits_quotient some few fits short unsigned rounds
  refine ⟨_, read, ?_⟩
  rw [negative_laidOut]
  cases negative with
  | false => rw [if_neg Bool.false_ne_true, if_neg Bool.false_ne_true, positive, Nat.zero_add]
  | true => rw [if_pos rfl, if_pos rfl, opposite]

/-! ### Reading again -/

/-- A number without its sign. -/
def unsigned (bits : UInt64) : UInt64 := bits &&& 0x7FFFFFFFFFFFFFFF

theorem toNat_unsigned (bits : UInt64) : (unsigned bits).toNat = bits.toNat % 2 ^ 63 := by
  rw [unsigned, UInt64.toNat_and]
  exact Nat.and_two_pow_sub_one_eq_mod bits.toNat 63

theorem filled_unsigned {bits : UInt64} (some : unsigned bits ≠ 0) : 0 < (Decimal.Binary.ofBits (unsigned bits)).m := by
  apply Decimal.Binary.filled_ofBits
  have positive : (unsigned bits).toNat ≠ 0 := fun none => some (UInt64.toNat_inj.mp none)
  rw [toNat_unsigned] at positive ⊢
  omega

/-- The numeral that is written for a double. -/
def numeralOf (bits : UInt64) : Numeral :=
  if unsigned bits = 0 then ⟨decide (bits ≠ unsigned bits), ['0'], ['0'], none⟩
  else laidOut (decide (bits ≠ unsigned bits)) (Decimal.shortest (unsigned bits))

theorem numeral_ofDouble (bits : UInt64) : Reader.numeral (ofDouble bits) = some (numeralOf bits, []) := by
  have read (negative : Bool) : Reader.magnitude negative (if unsigned bits = 0 then ['0', '.', '0']
      else layout (Decimal.shortest (unsigned bits))) = some
        (if unsigned bits = 0 then ⟨negative, ['0'], ['0'], none⟩
          else laidOut negative (Decimal.shortest (unsigned bits)), []) := by
    split_ifs with none
    · rfl
    · exact magnitude_layout (Decimal.Binary.digits_pos (filled_unsigned none)
        (Decimal.readsBack_shortest (filled_unsigned none))) negative
  unfold ofDouble numeralOf
  rw [← unsigned]
  by_cases positive : bits = unsigned bits
  · rw [if_pos positive, decide_eq_false (not_not_intro positive)]
    exact Reader.numeral_of_magnitude (read false)
  · rw [if_neg positive, decide_eq_true positive]
    exact read true

theorem numeral_ofInt (n : Int) :
    Reader.numeral (ofInt n) = some (⟨decide (n < 0), digits n.natAbs, [], none⟩, []) := by
  have read (negative : Bool) (n : Nat) :
      Reader.magnitude negative (digits n) = some (⟨negative, digits n, [], none⟩, []) := by
    have whole := (Reader.isWhole_digits n).read (show Reader.Ends [] by simp [Reader.Ends])
    rw [List.append_nil] at whole
    simp [Reader.magnitude, whole, Reader.fraction, Reader.exponent]
  cases n with
  | ofNat n =>
    rw [decide_eq_false (by simp)]
    exact Reader.numeral_of_magnitude (read false n)
  | negSucc n =>
    rw [decide_eq_true (Int.negSucc_lt_zero n)]
    exact read true (n + 1)

/-- What is written for a number is a number. -/
theorem numeral_chars (n : Number) : ∃ numeral, Reader.numeral n.chars = some (numeral, []) := by
  cases n with
  | integer n => exact ⟨_, numeral_ofInt n⟩
  | double bits => exact ⟨_, numeral_ofDouble bits⟩

/-- What a number is read as from its own text. -/
def reread (n : Number) : Option Number := (Reader.numeral n.chars).bind fun (numeral, _) => numeral.value?

/-- An integer that fits into 64 bits, with sign or without. -/
def Fits (n : Int) : Prop := -0x8000000000000000 ≤ n ∧ n < 0x10000000000000000

theorem reread_integer {n : Int} (fits : Fits n) : (integer n).reread = some (integer n) := by
  have read : (integer n).reread = Numeral.value? ⟨decide (n < 0), digits n.natAbs, [], none⟩ := by
    rw [reread, chars, numeral_ofInt]
    rfl
  rw [read, Numeral.value?, if_pos ⟨rfl, rfl⟩, ofDigitChars_digits]
  obtain ⟨least, greatest⟩ := fits
  by_cases negative : n < 0
  · have size : 0 < n.natAbs ∧ n.natAbs ≤ 0x8000000000000000 := by omega
    rw [if_pos (decide_eq_true negative), if_pos size]
    congr 2
    omega
  · have size : n.natAbs < Numeral.limit := by
      unfold Numeral.limit
      omega
    rw [if_neg (by simpa using negative), if_pos size]
    congr 2
    omega

theorem reread_double (bits : UInt64) : (double bits).reread = (numeralOf bits).value? := by
  rw [reread, chars, numeral_ofDouble]
  rfl

/-- Zero has two signs and no digits. -/
theorem reread_zero {bits : UInt64} (none : unsigned bits = 0) : (double bits).reread = some (double bits) := by
  rw [reread_double, numeralOf, if_pos none, none]
  have zero : bits.toNat % 2 ^ 63 = 0 := by
    rw [← toNat_unsigned, none]
    rfl
  have range : bits.toNat < 2 ^ 64 := bits.toNat_lt
  have cases : bits.toNat = 0 ∨ bits.toNat = 2 ^ 63 := by omega
  have cases : bits = 0 ∨ bits = 0x8000000000000000 := by
    rwa [← UInt64.toNat_inj, ← UInt64.toNat_inj]
  rcases cases with rfl | rfl <;> decide +kernel

/-- A number of a few digits: an integer of 64 bits, or a double that is zero or that a decimal is rounded to which has
at most fifteen digits, and at most twenty-one of them after the point. -/
inductive IsShort : Number → Prop where
  | integer {n : Int} (fits : Fits n) : IsShort (integer n)
  | zero {bits : UInt64} (none : unsigned bits = 0) : IsShort (double bits)
  | decimal {bits : UInt64} (d k : Nat) (few : d < 10 ^ 15) (fine : k ≤ 21)
    (rounds : (Decimal.Binary.ofBits (unsigned bits)).Rounds (d / 10 ^ k)) : IsShort (double bits)

/-- A number of a few digits is read from its own text. -/
theorem reread_of_isShort {n : Number} (short : n.IsShort) : n.reread = some n := by
  cases short with
  | integer fits => exact reread_integer fits
  | zero none => exact reread_zero none
  | @decimal bits d k few fine rounds =>
    by_cases none : unsigned bits = 0
    · exact reread_zero none
    have filled := filled_unsigned none
    have value : Scaled.value ⟨d, -k⟩ = (d : ℚ) / 10 ^ k := by
      rw [Scaled.value, zpow_neg, zpow_natCast, div_eq_mul_inv]
    have brief := Decimal.isBrief_shortest filled few fine ((Decimal.Binary.readsBack_iff filled).mpr (value ▸ rounds))
    have size : (unsigned bits).toNat < 2 ^ 63 := by
      rw [toNat_unsigned]
      exact Nat.mod_lt _ (by decide)
    obtain ⟨same, read, bits'⟩ := value?_of_isBrief size filled brief (decide (bits ≠ unsigned bits))
    have equal : same.toNat = bits.toNat := by
      rw [bits', toNat_unsigned]
      by_cases positive : bits = unsigned bits
      · have lower := congrArg UInt64.toNat positive
        rw [if_neg (by simpa using positive), ← toNat_unsigned]
        omega
      · have upper : bits.toNat ≠ bits.toNat % 2 ^ 63 := fun lower =>
          positive (UInt64.toNat_inj.mp (lower.trans (toNat_unsigned bits).symm))
        have range : bits.toNat < 2 ^ 64 := bits.toNat_lt
        rw [if_pos (by simpa using positive)]
        omega
    rw [reread_double, numeralOf, if_neg none, read, UInt64.toNat_inj.mp equal]

end Number

end AppLauncher.Json
