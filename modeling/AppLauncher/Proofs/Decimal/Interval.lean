import AppLauncher.Decimal.Shortest
import Mathlib.Algebra.Order.Field.Power
import Mathlib.Algebra.Order.Ring.Rat
import Mathlib.Order.Compare
import Mathlib.Tactic.Linarith
import Mathlib.Tactic.NormNum
import Mathlib.Tactic.Positivity
import Mathlib.Tactic.Ring

/-!
The decimals that are rounded to a binary number. They lie in an interval about the number that reaches halfway to its
two neighbours, and the ends belong to it if the number is the even one.
-/
namespace AppLauncher.Decimal

/-- The value of a decimal. -/
def Scaled.value (d : Scaled) : ℚ := d.digits * 10 ^ d.exponent

namespace Binary

variable {x : Binary} {v w : ℚ}

/-- The value of a binary number. -/
def value (x : Binary) : ℚ := x.m * 2 ^ x.q

/-- Halfway to the neighbour below. -/
def low (x : Binary) : ℚ := (x.m - if x.narrowBelow then 1 / 4 else 1 / 2) * 2 ^ x.q

/-- Halfway to the neighbour above. -/
def high (x : Binary) : ℚ := (x.m + 1 / 2) * 2 ^ x.q

/-- Whether a value is rounded to the number. -/
structure Rounds (x : Binary) (v : ℚ) : Prop where
  low_le : x.low ≤ v
  le_high : v ≤ x.high
  even : v = x.low ∨ v = x.high → Even x.m

theorem two_zpow_pos (q : ℤ) : (0 : ℚ) < 2 ^ q := zpow_pos (by norm_num) q

theorem ten_zpow_pos (i : ℤ) : (0 : ℚ) < 10 ^ i := zpow_pos (by norm_num) i

theorem low_lt_value (x : Binary) : x.low < x.value := by
  apply mul_lt_mul_of_pos_right _ (two_zpow_pos x.q)
  split_ifs <;> linarith

theorem value_lt_high (x : Binary) : x.value < x.high := by
  apply mul_lt_mul_of_pos_right _ (two_zpow_pos x.q)
  linarith

/-- A number is rounded to itself. -/
theorem rounds_value (x : Binary) : x.Rounds x.value where
  low_le := x.low_lt_value.le
  le_high := x.value_lt_high.le
  even := by
    rintro (low | high)
    · exact absurd low x.low_lt_value.ne'
    · exact absurd high x.value_lt_high.ne

/-- Whatever lies between the number and a value that is rounded to it is rounded to it too. -/
theorem Rounds.of_below (rounds : x.Rounds v) (above : v ≤ w) (below : w ≤ x.value) : x.Rounds w where
  low_le := rounds.low_le.trans above
  le_high := below.trans x.value_lt_high.le
  even := by
    rintro (low | high)
    · exact rounds.even (.inl (le_antisymm (above.trans low.le) rounds.low_le))
    · exact absurd (high ▸ below) x.value_lt_high.not_ge

theorem Rounds.of_above (rounds : x.Rounds v) (above : x.value ≤ w) (below : w ≤ v) : x.Rounds w where
  low_le := x.low_lt_value.le.trans above
  le_high := below.trans rounds.le_high
  even := by
    rintro (low | high)
    · exact absurd (low ▸ above) x.low_lt_value.not_ge
    · exact rounds.even (.inr (le_antisymm rounds.le_high (high.symm.le.trans below)))

/-! ### Comparing -/

theorem zpow_mul_pow_toNat_neg {b : ℚ} (positive : 0 < b) (i : ℤ) : b ^ i * b ^ (-i).toNat = b ^ i.toNat := by
  rw [← zpow_natCast, ← zpow_natCast, ← zpow_add₀ positive.ne']
  congr 1
  omega

theorem compareScaled_eq (a : ℕ) (i : ℤ) (n : ℕ) (j : ℤ) :
    compareScaled a i n j = compare ((a : ℚ) * 10 ^ i) (n * 2 ^ j) := by
  have tens := zpow_mul_pow_toNat_neg (b := 10) (by norm_num) i
  have twos := zpow_mul_pow_toNat_neg (b := 2) (by norm_num) j
  have scale : (0 : ℚ) < 10 ^ (-i).toNat * 2 ^ (-j).toNat := by positivity
  have left : ((a * Nat.pow 10 i.toNat * Nat.pow 2 (-j).toNat : ℕ) : ℚ) =
      a * 10 ^ i * (10 ^ (-i).toNat * 2 ^ (-j).toNat) := by
    simp only [Nat.pow_eq]
    push_cast
    rw [← tens]
    ring
  have right : ((n * Nat.pow 2 j.toNat * Nat.pow 10 (-i).toNat : ℕ) : ℚ) =
      n * 2 ^ j * (10 ^ (-i).toNat * 2 ^ (-j).toNat) := by
    simp only [Nat.pow_eq]
    push_cast
    rw [← twos]
    ring
  rw [compareScaled, ← cmp_eq_compare, ← cmp_eq_compare, ← cmp_mul_pos_right scale, ← left, ← right]
  exact (Nat.strictMono_cast.cmp_map_eq _ _).symm

theorem readsBack_iff (positive : 0 < x.m) {d : Scaled} : x.readsBack d ↔ x.Rounds d.value := by
  have quarter : (2 : ℚ) ^ (x.q - 2) = 2 ^ x.q / 4 := by
    rw [zpow_sub₀ (by norm_num)]
    norm_num
  have low : (((if x.narrowBelow then 4 * x.m - 1 else 4 * x.m - 2 : ℕ) : ℚ)) * 2 ^ (x.q - 2) = x.low := by
    rw [quarter, Binary.low]
    split_ifs
    · rw [Nat.cast_sub (by omega)]
      push_cast
      ring
    · rw [Nat.cast_sub (by omega)]
      push_cast
      ring
  have high : ((4 * x.m + 2 : ℕ) : ℚ) * 2 ^ (x.q - 2) = x.high := by
    rw [quarter, Binary.high]
    push_cast
    ring
  have even : x.m % 2 = 0 ↔ Even x.m := Nat.even_iff.symm
  have value : (d.digits : ℚ) * 10 ^ d.exponent = d.value := rfl
  simp only [readsBack, compareScaled_eq, low, high, value, even, Bool.and_eq_true, Bool.or_eq_true,
    decide_eq_true_eq, compare_gt_iff_gt, compare_lt_iff_lt, compare_eq_iff_eq]
  constructor
  · rintro ⟨above, below⟩
    refine ⟨?_, ?_, ?_⟩
    · rcases above with above | above
      · exact above.le
      · exact above.2.ge
    · rcases below with below | below
      · exact below.le
      · exact below.2.le
    · rintro (same | same)
      · rcases above with above | above
        · exact absurd same above.ne'
        · exact above.1
      · rcases below with below | below
        · exact absurd same below.ne
        · exact below.1
  · rintro ⟨above, below, even⟩
    constructor
    · rcases above.lt_or_eq with above | same
      · exact .inl above
      · exact .inr ⟨even (.inl same.symm), same.symm⟩
    · rcases below.lt_or_eq with below | same
      · exact .inl below
      · exact .inr ⟨even (.inr same), same⟩

/-! ### Numbers of the format -/

/-- A number as the format has it: with as many digits as it can have, and narrow below a power of two unless that is
the least one with all its digits. -/
structure IsNumber (x : Binary) : Prop where
  small : x.m < 2 ^ 53
  least : -1074 ≤ x.q
  greatest : x.q ≤ 972
  full : 2 ^ 52 ≤ x.m ∨ x.q = -1074
  narrow : x.narrowBelow ↔ x.m = 2 ^ 52 ∧ -1074 < x.q

/-- The exponent and the fraction in the bits of a number. -/
theorem ofBits_eq (bits : UInt64) : ofBits bits =
    if bits.toNat / 2 ^ 52 % 2 ^ 11 = 0 then ⟨bits.toNat % 2 ^ 52, -1074, false⟩
    else ⟨0x10000000000000 + bits.toNat % 2 ^ 52, (bits.toNat / 2 ^ 52 % 2 ^ 11 : Nat) - 1075,
      decide (bits.toNat % 2 ^ 52 = 0) && decide (bits.toNat / 2 ^ 52 % 2 ^ 11 > 1)⟩ := by
  have exponent : ((bits >>> 52) &&& 0x7FF).toNat = bits.toNat / 2 ^ 52 % 2 ^ 11 := by
    rw [UInt64.toNat_and, UInt64.toNat_shiftRight, Nat.shiftRight_eq_div_pow]
    exact Nat.and_two_pow_sub_one_eq_mod _ 11
  have fraction : (bits &&& 0xFFFFFFFFFFFFF).toNat = bits.toNat % 2 ^ 52 := by
    rw [UInt64.toNat_and]
    exact Nat.and_two_pow_sub_one_eq_mod _ 52
  rw [ofBits, exponent, fraction]

theorem isNumber_ofBits (bits : UInt64) : (ofBits bits).IsNumber := by
  have exponent : bits.toNat / 2 ^ 52 % 2 ^ 11 < 2 ^ 11 := Nat.mod_lt _ (by decide)
  have fraction : bits.toNat % 2 ^ 52 < 2 ^ 52 := Nat.mod_lt _ (by decide)
  rw [ofBits_eq]
  generalize bits.toNat / 2 ^ 52 % 2 ^ 11 = e at exponent ⊢
  generalize bits.toNat % 2 ^ 52 = f at fraction ⊢
  split_ifs with zero
  · refine ⟨?_, ?_, ?_, ?_, ?_⟩ <;> simp
    omega
  · refine ⟨?_, ?_, ?_, ?_, ?_⟩ <;> simp <;> omega

/-- The digits of a number other than zero are not zero. -/
theorem filled_ofBits {bits : UInt64} (some : bits.toNat % 2 ^ 63 ≠ 0) : 0 < (ofBits bits).m := by
  rw [ofBits_eq]
  split_ifs <;> dsimp only <;> omega

/-- The bits of a number without a sign. -/
theorem toNat_ofBits {bits : UInt64} (unsigned : bits.toNat < 2 ^ 63) (full : 2 ^ 52 ≤ (ofBits bits).m) :
    bits.toNat = ((ofBits bits).q + 1075).toNat * 2 ^ 52 + ((ofBits bits).m - 2 ^ 52) := by
  rw [ofBits_eq] at full ⊢
  split_ifs at full ⊢ <;> dsimp only at full ⊢ <;> omega

end Binary

end AppLauncher.Decimal
