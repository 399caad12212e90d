import AppLauncher.Proofs.Decimal.Interval
import Mathlib.Data.Nat.Cast.Order.Field

/-!
Division rounds as it should. If a fraction of two numbers that a double holds lies in the interval of a double, then
this double is what their division gives.
-/
namespace AppLauncher.Decimal

open Float.Model (UnpackedFloat Format totalExponent)
open Float.Model.UnpackedFloat

/-! ### What is dropped -/

/-- Whether a mantissa and the bits behind it stand for a value. -/
def Keeps : ExtendedMantissa → ℚ → Prop
  | ⟨m, false, false⟩, v => v = m
  | ⟨m, false, true⟩, v => m < v ∧ v < m + 1 / 2
  | ⟨m, true, false⟩, v => v = m + 1 / 2
  | ⟨m, true, true⟩, v => m + 1 / 2 < v ∧ v < m + 1

variable {em : ExtendedMantissa} {v : ℚ} {m : ℕ}

theorem Keeps.shiftRightOne (keeps : Keeps em v) : Keeps em.shiftRightOne (v / 2) := by
  obtain ⟨m, round, sticky⟩ := em
  have halves : ((m / 2 : ℕ) : ℚ) * 2 + ((m % 2 : ℕ) : ℚ) = m := by exact_mod_cast Nat.div_add_mod' m 2
  rcases Nat.mod_two_eq_zero_or_one m with even | odd
  · cases round <;> cases sticky <;>
      simp only [ExtendedMantissa.shiftRightOne, even, Keeps] at keeps halves ⊢ <;>
      push_cast at halves <;> norm_num at keeps ⊢ <;> grind
  · cases round <;> cases sticky <;>
      simp only [ExtendedMantissa.shiftRightOne, odd, Keeps] at keeps halves ⊢ <;>
      push_cast at halves <;> norm_num at keeps ⊢ <;> grind

theorem Keeps.shiftRight (keeps : Keeps em v) (n : ℕ) : Keeps (em >>> n) (v / 2 ^ n) := by
  change Keeps (n.repeat ExtendedMantissa.shiftRightOne em) (v / 2 ^ n)
  induction n with
  | zero => rwa [pow_zero, div_one]
  | succ n ih =>
    rw [pow_succ, ← div_div]
    exact ih.shiftRightOne

/-- What is left of a fraction. -/
theorem keeps_fraction {a b : ℕ} (positive : 0 < b) :
    Keeps (.ofMantissaAndAccuracy (a / b) (accuracyOfFraction (a % b) b)) ((a : ℚ) / b) := by
  have divisor : (0 : ℚ) < b := Nat.cast_pos.mpr positive
  have parts : (a : ℚ) / b = (a / b : ℕ) + ((a % b : ℕ) : ℚ) / b := by
    rw [div_eq_iff divisor.ne', add_mul, div_mul_cancel₀ _ divisor.ne']
    exact_mod_cast (Nat.div_add_mod' a b).symm
  have within : ((a % b : ℕ) : ℚ) < b := Nat.cast_lt.mpr (Nat.mod_lt a positive)
  rw [parts]
  generalize a / b = quotient
  generalize a % b = rest at within
  unfold accuracyOfFraction
  split_ifs with none
  · simp [none, ExtendedMantissa.ofMantissaAndAccuracy, Keeps]
  · have some : (0 : ℚ) < rest := Nat.cast_pos.mpr (Nat.pos_of_ne_zero none)
    rcases lt_trichotomy (2 * rest) b with less | same | more
    · have less' : (2 : ℚ) * rest < b := by exact_mod_cast less
      rw [compare_lt_iff_lt.mpr less]
      constructor
      · linarith [div_pos some divisor]
      · linarith [(div_lt_iff₀ divisor).mpr (by linarith : (rest : ℚ) < 1 / 2 * b)]
    · have same' : (2 : ℚ) * rest = b := by exact_mod_cast same
      rw [compare_eq_iff_eq.mpr same]
      change (quotient : ℚ) + rest / b = quotient + 1 / 2
      rw [(div_eq_iff divisor.ne').mpr (by linarith : (rest : ℚ) = 1 / 2 * b)]
    · have more' : (b : ℚ) < 2 * rest := by exact_mod_cast more
      rw [compare_gt_iff_gt.mpr more]
      constructor
      · linarith [(lt_div_iff₀ divisor).mpr (by linarith : (1 / 2 : ℚ) * b < rest)]
      · linarith [(div_lt_one divisor).mpr within]

/-- The mantissa is rounded to the nearest number, and to the even one halfway between two. -/
theorem Keeps.roundedMantissa (keeps : Keeps em v) (low : (m : ℚ) - 1 / 2 ≤ v) (high : v ≤ m + 1 / 2)
    (even : v = m - 1 / 2 ∨ v = m + 1 / 2 → Even m) : em.roundedMantissa = m := by
  obtain ⟨n, round, sticky⟩ := em
  have between (up : (m : ℚ) < n + 2) (down : (n : ℚ) < m + 1) : m = n ∨ m = n + 1 := by
    have up : m < n + 2 := by exact_mod_cast up
    have down : n < m + 1 := by exact_mod_cast down
    omega
  cases round <;> cases sticky <;> simp only [Keeps] at keeps
  · rcases between (by linarith) (by linarith) with rfl | rfl
    · rfl
    · push_cast at low
      linarith
  · rcases between (by linarith) (by linarith) with rfl | rfl
    · rfl
    · push_cast at low
      linarith
  · rcases between (by linarith) (by linarith) with rfl | rfl
    · have whole := Nat.even_iff.mp (even (.inr keeps))
      change m + m % 2 = m
      omega
    · have whole := Nat.even_iff.mp (even (.inl (by push_cast; linarith)))
      change n + n % 2 = n + 1
      omega
  · rcases between (by linarith) (by linarith) with rfl | rfl
    · linarith
    · rfl

/-! ### Rounding -/

theorem targetExponent_eq (total : ℤ) : Format.binary64.targetExponent total = max (total - 53) (-1074) := rfl

/-- Shifting changes the exponent only. -/
theorem shiftToExponent_eq {u : ℕ} {e t : ℤ} {accuracy : Accuracy} (coarser : e ≤ t) :
    shiftToExponent u e accuracy t =
      (ExtendedMantissa.ofMantissaAndAccuracy u accuracy >>> (t - e).toNat, t) := by
  rw [shiftToExponent, Int.toNat_of_nonneg (by omega), add_sub_cancel]

/-- A mantissa of the right length is left alone, and one that is a digit too long is halved. -/
theorem shiftToTargetExponent_fits {q : ℤ} (full : 2 ^ 52 ≤ m) (small : m < 2 ^ 53) (least : -1074 ≤ q) :
    (shiftToTargetExponent .binary64 m q .exact).1.mantissa = m ∧
      (shiftToTargetExponent .binary64 m q .exact).2 = q := by
  have digits : m.log2 = 52 := (Nat.log2_eq_iff (by omega)).mpr ⟨full, small⟩
  have target : Format.binary64.targetExponent (totalExponent m q) = q := by
    rw [targetExponent_eq, totalExponent, digits]
    omega
  rw [shiftToTargetExponent, target, shiftToExponent_eq le_rfl, sub_self]
  exact ⟨rfl, rfl⟩

theorem shiftToTargetExponent_carry {q : ℤ} (least : -1074 ≤ q) :
    (shiftToTargetExponent .binary64 (2 ^ 53) (q - 1) .exact).1.mantissa = 2 ^ 52 ∧
      (shiftToTargetExponent .binary64 (2 ^ 53) (q - 1) .exact).2 = q := by
  have target : Format.binary64.targetExponent (totalExponent (2 ^ 53) (q - 1)) = q := by
    rw [targetExponent_eq, totalExponent, Nat.log2_two_pow]
    omega
  rw [shiftToTargetExponent, target, shiftToExponent_eq (by omega), sub_sub_cancel]
  exact ⟨rfl, rfl⟩

/-- The number of digits of a mantissa tells the exponent that it is shifted to, up to one. -/
theorem targetExponent_cases {u : ℕ} {e q : ℤ} (least : -1074 ≤ q) (lower : u * 2 ^ e ≤ v) (upper : v < (u + 1) * 2 ^ e)
    (below : 2 ^ (51 + q) < v) (above : v < 2 ^ (53 + q))
    (fine : e ≤ Format.binary64.targetExponent (totalExponent u e)) :
    Format.binary64.targetExponent (totalExponent u e) = q ∨
      Format.binary64.targetExponent (totalExponent u e) = q - 1 ∧ -1074 < q ∧ v < 2 ^ (52 + q) := by
  rw [targetExponent_eq, totalExponent] at fine ⊢
  have next : v < 2 ^ ((u.log2 : ℤ) + 1 + e) := by
    have bound : ((u + 1 : ℕ) : ℚ) ≤ ((2 ^ (u.log2 + 1) : ℕ) : ℚ) := Nat.cast_le.mpr Nat.lt_log2_self
    push_cast at bound
    refine upper.trans_le ?_
    rw [zpow_add₀ (by norm_num)]
    exact_mod_cast mul_le_mul_of_nonneg_right bound (Binary.two_zpow_pos e).le
  have behind : 51 + q < u.log2 + 1 + e := (zpow_lt_zpow_iff_right₀ (by norm_num)).mp (below.trans next)
  have before : u.log2 + 1 + e ≤ 53 + q := by
    rcases Nat.eq_zero_or_pos u with rfl | filled
    · rw [Nat.log2_zero] at fine ⊢
      omega
    · have bound : ((2 ^ u.log2 : ℕ) : ℚ) ≤ u := Nat.cast_le.mpr (Nat.log2_self_le filled.ne')
      have first : (2 : ℚ) ^ ((u.log2 : ℤ) + e) ≤ v := by
        refine le_trans ?_ lower
        rw [zpow_add₀ (by norm_num)]
        exact_mod_cast mul_le_mul_of_nonneg_right bound (Binary.two_zpow_pos e).le
      have order : u.log2 + e < 53 + q := (zpow_lt_zpow_iff_right₀ (by norm_num)).mp (first.trans_lt above)
      omega
  rcases (show u.log2 + 1 + e = 53 + q ∨ u.log2 + 1 + e = 52 + q by omega) with long | short
  · left
    omega
  · rcases least.lt_or_eq with inside | rfl
    · right
      exact ⟨by omega, inside, short ▸ next⟩
    · left
      omega

/-- Between the halfway points of the format, the bounds of the interval are those of plain rounding. -/
theorem Binary.Rounds.scaled {x : Binary} {w : ℚ} (rounds : x.Rounds (w * 2 ^ x.q)) :
    (x.m - 1 / 2 : ℚ) ≤ w ∧ w ≤ x.m + 1 / 2 ∧ (w = x.m - 1 / 2 ∨ w = x.m + 1 / 2 → Even x.m) := by
  have step := two_zpow_pos x.q
  have low : (x.m - if x.narrowBelow then 1 / 4 else 1 / 2 : ℚ) ≤ w := le_of_mul_le_mul_right rounds.low_le step
  refine ⟨?_, le_of_mul_le_mul_right rounds.le_high step, ?_⟩
  · split_ifs at low <;> linarith
  · rintro (down | up)
    · split_ifs at low with narrow
      · linarith
      · refine rounds.even (.inl ?_)
        rw [down, Binary.low, if_neg narrow]
    · refine rounds.even (.inr ?_)
      rw [up, Binary.high]

/-- A value in the interval of a number that has all its digits lies close to it. -/
theorem Binary.Rounds.bounds {x : Binary} (number : x.IsNumber) (full : 2 ^ 52 ≤ x.m) (rounds : x.Rounds v) :
    2 ^ (51 + x.q) < v ∧ v < 2 ^ (53 + x.q) := by
  have step := two_zpow_pos x.q
  have small : (x.m : ℚ) + 1 ≤ 9007199254740992 := by exact_mod_cast number.small
  have many : (4503599627370496 : ℚ) ≤ x.m := by exact_mod_cast full
  rw [zpow_add₀ (by norm_num), zpow_add₀ (by norm_num)]
  constructor
  · refine lt_of_lt_of_le (mul_lt_mul_of_pos_right ?_ step) rounds.low_le
    norm_num
    split_ifs <;> linarith
  · refine rounds.le_high.trans_lt (mul_lt_mul_of_pos_right ?_ step)
    norm_num
    linarith

/-- Of the values that are rounded to a number only those of a power of two may lie below that power. -/
theorem Binary.Rounds.eq_of_below {x : Binary} (full : 2 ^ 52 ≤ x.m) (rounds : x.Rounds v)
    (within : v < 2 ^ (52 + x.q)) : x.m = 2 ^ 52 := by
  by_contra! other
  have more : (4503599627370497 : ℚ) ≤ x.m := by exact_mod_cast lt_of_le_of_ne full other.symm
  have beyond := rounds.low_le.trans_lt within
  rw [zpow_add₀ (by norm_num)] at beyond
  have order := lt_of_mul_lt_mul_right beyond (two_zpow_pos x.q).le
  norm_num at order
  split_ifs at order <;> linarith

theorem fraction_bounds {b : ℕ} (positive : 0 < b) (a : ℕ) (e : ℤ) :
    ((a / b : ℕ) : ℚ) * 2 ^ e ≤ (a : ℚ) / b * 2 ^ e ∧ (a : ℚ) / b * 2 ^ e < ((a / b : ℕ) + 1) * 2 ^ e := by
  have scale : (0 : ℚ) < 2 ^ e := Binary.two_zpow_pos e
  have next : (a : ℚ) < ((a / b : ℕ) + 1) * b := by
    rw [mul_comm]
    exact_mod_cast Nat.lt_mul_div_succ a positive
  exact ⟨mul_le_mul_of_nonneg_right Nat.cast_div_le scale.le,
    mul_lt_mul_of_pos_right ((div_lt_iff₀ (Nat.cast_pos.mpr positive)).mpr next) scale⟩

theorem finite_congr {sign : Sign} {n : ℕ} {e q : ℤ} {filled : 0 < m} {filled' : 0 < n} (mantissa : m = n)
    (exponent : e = q) : UnpackedFloat.finite sign m e filled = .finite sign n q filled' := by
  subst mantissa exponent
  rfl

/-- A fraction in the interval of a number is rounded to the number, if all digits of the number are in the mantissa. -/
theorem roundWithAccuracy_of_rounds {x : Binary} (number : x.IsNumber) (full : 2 ^ 52 ≤ x.m) {a b : ℕ}
    (positive : 0 < b) {e : ℤ} (rounds : x.Rounds ((a : ℚ) / b * 2 ^ e)) (sign : Sign)
    (fine : e ≤ Format.binary64.targetExponent (totalExponent (a / b) e)) :
    roundWithAccuracy .binary64 sign (a / b) e (accuracyOfFraction (a % b) b) =
      .finite sign x.m x.q (by omega) := by
  obtain ⟨lower, upper⟩ := fraction_bounds positive a e
  obtain ⟨below, above⟩ := rounds.bounds number full
  have keeps := (keeps_fraction positive (a := a)).shiftRight
    (Format.binary64.targetExponent (totalExponent (a / b) e) - e).toNat
  have shifted (t : ℤ) (coarser : e ≤ t) : (a : ℚ) / b * 2 ^ e = (a : ℚ) / b / 2 ^ (t - e).toNat * 2 ^ t := by
    have apart : (2 : ℚ) ^ t = 2 ^ (t - e).toNat * 2 ^ e := by
      rw [← zpow_natCast, ← zpow_add₀ (by norm_num), Int.toNat_of_nonneg (by omega), sub_add_cancel]
    rw [apart, ← mul_assoc, div_mul_cancel₀ _ (by positivity)]
  unfold roundWithAccuracy
  rw [shiftToTargetExponent, shiftToExponent_eq fine]
  dsimp only
  rcases targetExponent_cases number.least lower upper below above fine with same | ⟨lowered, inside, within⟩
  · rw [same] at keeps fine ⊢
    rw [shifted x.q fine] at rounds
    obtain ⟨low, high, even⟩ := rounds.scaled
    rw [keeps.roundedMantissa low high even]
    obtain ⟨mantissa, exponent⟩ := shiftToTargetExponent_fits full number.small number.least
    rw [dif_neg (by omega)]
    exact finite_congr mantissa exponent
  · -- The value lies below the power of two that it is rounded to, so that the mantissa gets one digit more.
    rw [lowered] at keeps fine ⊢
    have border := rounds.eq_of_below full within
    have half : (2 : ℚ) ^ x.q = 2 * 2 ^ (x.q - 1) := by
      rw [← zpow_one_add₀ (by norm_num), add_sub_cancel]
    have unit : (0 : ℚ) < 2 ^ (x.q - 1) := Binary.two_zpow_pos _
    have low := rounds.low_le
    rw [Binary.low, if_pos (number.narrow.mpr ⟨border, inside⟩), border, shifted _ fine, half, ← mul_assoc] at low
    rw [shifted _ fine, zpow_add₀ (by norm_num), half, ← mul_assoc] at within
    have low := le_of_mul_le_mul_right low unit
    have high := lt_of_mul_lt_mul_right within unit.le
    norm_num at low high
    rw [keeps.roundedMantissa (m := 2 ^ 53) (by norm_num; linarith) (by norm_num; linarith) (fun _ => by decide)]
    obtain ⟨mantissa, exponent⟩ := shiftToTargetExponent_carry number.least
    rw [dif_neg (by omega)]
    exact finite_congr (mantissa.trans border.symm) exponent

/-! ### Numbers that are held -/

theorem log2_shiftLeft {n : ℕ} (filled : 0 < n) (k : ℕ) : (n <<< k).log2 = n.log2 + k := by
  rw [Nat.shiftLeft_eq, Nat.log2_eq_iff (by positivity), pow_add, add_right_comm, pow_add]
  exact ⟨Nat.mul_le_mul_right _ (Nat.log2_self_le filled.ne'),
    Nat.mul_lt_mul_of_pos_right Nat.lt_log2_self (Nat.two_pow_pos k)⟩

/-- A number with all its digits is one of the format. -/
def Binary.ofFull (m : ℕ) (q : ℤ) : Binary := ⟨m, q, m = 2 ^ 52 ∧ -1074 < q⟩

theorem Binary.isNumber_ofFull {q : ℤ} (full : 2 ^ 52 ≤ m) (small : m < 2 ^ 53) (least : -1074 ≤ q)
    (greatest : q ≤ 972) : (ofFull m q).IsNumber :=
  ⟨small, least, greatest, .inl full, decide_eq_true_iff⟩

/-- A natural number that has no more digits than a double is held as it is. -/
theorem unpacked_ofNat {n : ℕ} {q : ℤ} (full : 2 ^ 52 ≤ m) (small : m < 2 ^ 53) (least : -1074 ≤ q)
    (greatest : q ≤ 972) (same : (n : ℚ) = m * 2 ^ q) :
    UnpackedFloat.ofNat .binary64 n = .finite .positive m q (by omega) := by
  have filled : 0 < n := by
    have positive : (0 : ℚ) < m * 2 ^ q :=
      mul_pos (Nat.cast_pos.mpr (by omega)) (Binary.two_zpow_pos q)
    exact Nat.cast_pos.mp (same ▸ positive)
  have above : compare (n : ℤ) 0 = .gt := compare_gt_iff_gt.mpr (by exact_mod_cast filled)
  rw [UnpackedFloat.ofNat, ofInt, UnpackedFloat.normalize, above]
  dsimp only
  rw [Int.toNat_natCast, UnpackedFloat.round]
  unfold decreaseExponent
  generalize shift : (0 - Format.binary64.targetExponent (totalExponent n 0)).toNat = k
  have digits := log2_shiftLeft filled k
  have value : (((n <<< k : ℕ) : ℚ) / (1 : ℕ)) * 2 ^ (0 - k : ℤ) = (Binary.ofFull m q).value := by
    rw [Nat.shiftLeft_eq, Binary.value, Binary.ofFull, ← same, zero_sub, zpow_neg, zpow_natCast]
    push_cast
    rw [div_one, mul_inv_cancel_right₀ (by positivity)]
  have rounds : (Binary.ofFull m q).Rounds (((n <<< k : ℕ) : ℚ) / (1 : ℕ) * 2 ^ (0 - k : ℤ)) :=
    value ▸ (Binary.ofFull m q).rounds_value
  have fine : (0 - k : ℤ) ≤ Format.binary64.targetExponent (totalExponent (n <<< k / 1) (0 - k)) := by
    rw [targetExponent_eq, totalExponent] at shift ⊢
    rw [Nat.div_one, digits]
    omega
  have rounded := roundWithAccuracy_of_rounds (Binary.isNumber_ofFull full small least greatest) full Nat.one_pos rounds
    .positive fine
  rw [Nat.div_one, Nat.mod_one] at rounded
  exact rounded

/-! ### Division -/

theorem log2_le_log2_div {a b : ℕ} (positive : 0 < b) (filled : 0 < a) : a.log2 ≤ (a / b).log2 + 1 + b.log2 := by
  rw [← Nat.lt_succ_iff, Nat.log2_lt filled.ne']
  calc a < b * (a / b + 1) := Nat.lt_mul_div_succ a positive
    _ ≤ b * 2 ^ ((a / b).log2 + 1) := Nat.mul_le_mul_left b Nat.lt_log2_self
    _ ≤ 2 ^ (b.log2 + 1) * 2 ^ ((a / b).log2 + 1) := Nat.mul_le_mul_right _ Nat.lt_log2_self.le
    _ = 2 ^ ((a / b).log2 + 1 + b.log2 + 1) := by
      rw [← pow_add]
      congr 1
      omega

/-- A quotient in the interval of a number is rounded to the number. -/
theorem div_of_rounds {x : Binary} (number : x.IsNumber) (full : 2 ^ 52 ≤ x.m) {a b : ℕ} {i j : ℤ} (filled : 0 < a)
    (positive : 0 < b) (rounds : x.Rounds ((a * 2 ^ i) / (b * 2 ^ j))) :
    UnpackedFloat.div .binary64 (.finite .positive a i filled) (.finite .positive b j positive) =
      .finite .positive x.m x.q (by omega) := by
  unfold UnpackedFloat.div divCore
  dsimp only
  generalize start : min (i - j) (Format.binary64.targetExponent (totalExponent a i - totalExponent b j)) = e
  have digits := log2_shiftLeft filled (i - j - e).toNat
  have value : ((a <<< (i - j - e).toNat : ℕ) : ℚ) / b * 2 ^ e = (a * 2 ^ i) / (b * 2 ^ j) := by
    have apart : (2 : ℚ) ^ (i - j - e).toNat * 2 ^ e = 2 ^ (i - j) := by
      rw [← zpow_natCast, ← zpow_add₀ (by norm_num), Int.toNat_of_nonneg (by omega), sub_add_cancel]
    rw [Nat.shiftLeft_eq, Nat.cast_mul, Nat.cast_pow, Nat.cast_ofNat, mul_div_right_comm, mul_assoc, apart,
      zpow_sub₀ (by norm_num), div_mul_div_comm]
  have fine : e ≤ Format.binary64.targetExponent (totalExponent (a <<< (i - j - e).toNat / b) e) := by
    have enough := log2_le_log2_div positive (a := a <<< (i - j - e).toNat) (by rw [Nat.shiftLeft_eq]; positivity)
    rw [digits] at enough
    rw [targetExponent_eq, totalExponent, totalExponent] at start
    rw [targetExponent_eq, totalExponent]
    omega
  exact roundWithAccuracy_of_rounds number full positive (value ▸ rounds) .positive fine

/-! ### Bits -/

theorem toNat_append {i j : ℕ} (x : BitVec i) (y : BitVec j) : (x ++ y).toNat = x.toNat * 2 ^ j + y.toNat := by
  rw [BitVec.toNat_append, ← Nat.shiftLeft_add_eq_or_of_lt y.isLt, Nat.shiftLeft_eq]

theorem toNat_packComponents (sign : Sign) (exponent : BitVec 11) (mantissa : BitVec 52) :
    (packComponents .binary64 sign exponent mantissa).toNat =
      sign.toBitVec.toNat * 2 ^ 63 + exponent.toNat * 2 ^ 52 + mantissa.toNat := by
  rw [packComponents, toNat_append, toNat_append]
  ring

theorem unpackSign_packComponents (sign : Sign) (exponent : BitVec 11) (mantissa : BitVec 52) :
    unpackSign (packComponents .binary64 sign exponent mantissa) = sign.toBitVec := by
  apply BitVec.eq_of_toNat_eq
  change (BitVec.cast _ (BitVec.extractLsb 63 63 (packComponents .binary64 sign exponent mantissa))).toNat = _
  rw [BitVec.toNat_cast, BitVec.extractLsb_toNat, toNat_packComponents, Nat.shiftRight_eq_div_pow]
  have one := sign.toBitVec.isLt
  have eleven := exponent.isLt
  have fiftyTwo := mantissa.isLt
  change (sign.toBitVec.toNat * 2 ^ 63 + exponent.toNat * 2 ^ 52 + mantissa.toNat) / 2 ^ 63 % 2 ^ (63 - 63 + 1) = _
  omega

theorem ofBitVec_toBitVec (sign : Sign) : Sign.ofBitVec sign.toBitVec = sign := by
  cases sign <;> rfl

/-- What is unpacked if the exponent is neither the least nor the greatest one. -/
theorem unpack_packComponents (sign : Sign) {exponent : BitVec 11} (notOnes : exponent ≠ -1#11)
    (notZero : exponent ≠ 0#11) {mantissa : BitVec 52} (filled : 0 < (1#1 ++ mantissa).toNat) :
    UnpackedFloat.unpack .binary64 (packComponents .binary64 sign exponent mantissa) =
      .finite sign (1#1 ++ mantissa).toNat (exponent.toNat - (1023 + 52)) filled := by
  have unpacked : unpackSign (packComponents .binary64 sign exponent mantissa) = sign.toBitVec ∧
      unpackExponent (packComponents .binary64 sign exponent mantissa) = exponent ∧
      unpackMantissa (packComponents .binary64 sign exponent mantissa) = mantissa :=
    ⟨unpackSign_packComponents sign exponent mantissa, unpackExponent_packComponents, unpackMantissa_packComponents⟩
  unfold UnpackedFloat.unpack
  generalize packComponents .binary64 sign exponent mantissa = bits at unpacked ⊢
  obtain ⟨signed, rfl, rfl⟩ := unpacked
  dsimp only
  rw [if_neg notOnes, if_neg notZero, signed, ofBitVec_toBitVec]
  rfl

section Bits

variable {q : ℤ} (full : 2 ^ 52 ≤ m) (small : m < 2 ^ 53) (least : -1074 ≤ q) (greatest : q ≤ 971)
include full small least greatest

/-- A number with all its digits is packed without the first one. -/
theorem pack_finite (sign : Sign) : UnpackedFloat.pack .binary64 (.finite sign m q (by omega)) =
    packComponents .binary64 sign (BitVec.ofNat 11 (q + 1075).toNat) (BitVec.ofNat 52 m) := by
  have digits : m.log2 = 52 := (Nat.log2_eq_iff (by omega)).mpr ⟨full, small⟩
  have biased : q + (Format.binary64.exponentBias : ℤ) + (Format.binary64.mantissaBitsWithoutImplicit : ℤ) =
      q + 1075 := by
    change q + 1023 + 52 = q + 1075
    omega
  unfold UnpackedFloat.pack
  simp only [biased, digits]
  have whole : 52 + 1 = Format.binary64.mantissaBits := rfl
  rw [if_neg (by omega), if_pos whole]

theorem unpack_pack_finite (sign : Sign) :
    UnpackedFloat.unpack .binary64 (UnpackedFloat.pack .binary64 (.finite sign m q (by omega))) =
      .finite sign m q (by omega) := by
  have exponent : (BitVec.ofNat 11 (q + 1075).toNat).toNat = (q + 1075).toNat := by
    rw [BitVec.toNat_ofNat, Nat.mod_eq_of_lt (by omega)]
  have notOnes : BitVec.ofNat 11 (q + 1075).toNat ≠ -1#11 := by
    intro same
    have ones := congrArg BitVec.toNat same
    rw [exponent] at ones
    simp at ones
    omega
  have notZero : BitVec.ofNat 11 (q + 1075).toNat ≠ 0#11 := by
    intro same
    have zero := congrArg BitVec.toNat same
    rw [exponent] at zero
    simp at zero
    omega
  have mantissa : (1#1 ++ BitVec.ofNat 52 m).toNat = m := by
    rw [toNat_append, BitVec.toNat_ofNat, BitVec.toNat_ofNat]
    omega
  rw [pack_finite full small least greatest, unpack_packComponents sign notOnes notZero (by omega)]
  exact finite_congr mantissa (by omega)

theorem toNat_pack_finite (sign : Sign) :
    (UnpackedFloat.pack .binary64 (.finite sign m q (by omega))).toNat =
      sign.toBitVec.toNat * 2 ^ 63 + (q + 1075).toNat * 2 ^ 52 + (m - 2 ^ 52) := by
  rw [pack_finite full small least greatest, toNat_packComponents, BitVec.toNat_ofNat, BitVec.toNat_ofNat]
  omega

end Bits

/-! ### Doubles -/

/-- A number between those that are tiny and those that are huge has all its digits. -/
theorem Binary.Rounds.full {x : Binary} (number : x.IsNumber) (rounds : x.Rounds v) (least : 1 / 10 ^ 22 ≤ v)
    (greatest : v ≤ 2 ^ 64) : 2 ^ 52 ≤ x.m ∧ x.q ≤ 971 := by
  have step := two_zpow_pos x.q
  have full : 2 ^ 52 ≤ x.m := by
    rcases number.full with full | least
    · exact full
    · by_contra! few
      have few : (x.m : ℚ) < 4503599627370496 := by exact_mod_cast few
      have tiny : x.high ≤ 2 ^ (53 : ℤ) * 2 ^ (-127 : ℤ) := by
        refine mul_le_mul (by norm_num; linarith) ?_ step.le (by norm_num)
        exact zpow_le_zpow_right₀ (by norm_num) (by omega)
      norm_num at tiny
      linarith [rounds.le_high]
  refine ⟨full, ?_⟩
  by_contra! beyond
  have many : (4503599627370496 : ℚ) ≤ x.m := by exact_mod_cast full
  have huge : 1 * 2 ^ (65 : ℤ) ≤ x.low := by
    refine mul_le_mul (by split_ifs <;> linarith) ?_ (by norm_num) (by split_ifs <;> linarith)
    exact zpow_le_zpow_right₀ (by norm_num) (by omega)
  norm_num at huge greatest
  linarith [rounds.low_le]

/-- What a natural number is held as. -/
theorem exists_unpack_ofNat {c k : ℕ} (filled : 0 < c) (few : c < 2 ^ 53) (short : k ≤ 900) :
    ∃ m q filled, (Float.Model.ofNat (c * 2 ^ k)).unpack = .finite .positive m q filled ∧
      ((c * 2 ^ k : ℕ) : ℚ) = m * 2 ^ q := by
  have bits : c.log2 < 53 := (Nat.log2_lt filled.ne').mpr few
  have digits := log2_shiftLeft filled (52 - c.log2)
  obtain ⟨full, small⟩ : 2 ^ 52 ≤ c * 2 ^ (52 - c.log2) ∧ c * 2 ^ (52 - c.log2) < 2 ^ 53 := by
    rw [← Nat.shiftLeft_eq]
    refine (Nat.log2_eq_iff ?_).mp (digits.trans (by omega))
    rw [Nat.shiftLeft_eq]
    positivity
  have same : ((c * 2 ^ k : ℕ) : ℚ) = (c * 2 ^ (52 - c.log2) : ℕ) * 2 ^ ((k : ℤ) - (52 - c.log2 : ℕ)) := by
    rw [zpow_sub₀ (by norm_num), zpow_natCast, zpow_natCast]
    push_cast
    rw [mul_assoc, mul_div_cancel₀ _ (by positivity)]
  have least : -1074 ≤ (k : ℤ) - (52 - c.log2 : ℕ) := by omega
  have greatest : (k : ℤ) - (52 - c.log2 : ℕ) ≤ 971 := by omega
  refine ⟨_, _, Nat.lt_of_lt_of_le (by decide) full, ?_, same⟩
  change UnpackedFloat.unpack .binary64 (UnpackedFloat.pack .binary64 (UnpackedFloat.ofNat .binary64 _)) = _
  rw [unpacked_ofNat full small least (greatest.trans (by decide)) same]
  exact unpack_pack_finite full small least greatest .positive

/-- The powers of ten up to the twenty-second are held as they are. -/
theorem ofScientific_eq_ofNat {n : ℕ} (short : n ≤ 22) :
    (Float.ofScientific 1 false n).toModel = Float.Model.ofNat (10 ^ n) := by
  have each : ∀ n < 23, (Float.ofScientific 1 false n).toModel = Float.Model.ofNat (10 ^ n) := by decide +kernel
  exact each n (by omega)

/-- A quotient in the interval of a double is divided to its mantissa and exponent. -/
theorem toModel_quotient {x : Binary} {c k n : ℕ} (number : x.IsNumber) (full : 2 ^ 52 ≤ x.m) (filled : 0 < c)
    (few : c < 2 ^ 53) (fits : c * 2 ^ k < 2 ^ 64) (short : n ≤ 22) (rounds : x.Rounds ((c * 2 ^ k : ℕ) / 10 ^ n)) :
    ((c * 2 ^ k).toUInt64.toFloat / Float.ofScientific 1 false n).toModel =
      .pack (.finite .positive x.m x.q (by omega)) := by
  have tens : 5 ^ n * 2 ^ n = 10 ^ n := (Nat.mul_pow 5 2 n).symm
  have shift : k < 64 := by
    have power : 2 ^ k < 2 ^ 64 := lt_of_le_of_lt (Nat.le_mul_of_pos_left _ filled) fits
    exact (Nat.pow_lt_pow_iff_right (by decide)).mp power
  obtain ⟨a, i, positive, above, same⟩ := exists_unpack_ofNat filled few (k := k) (by omega)
  obtain ⟨b, j, positive', below, same'⟩ := exists_unpack_ofNat (c := 5 ^ n) (k := n) (by positivity)
    (lt_of_le_of_lt (Nat.pow_le_pow_right (by decide) short) (by decide)) (by omega)
  rw [tens] at below same'
  have quotient := div_of_rounds number full positive positive' (by
    rw [← same, ← same']
    exact_mod_cast rounds)
  have word : (c * 2 ^ k).toUInt64.toNat = c * 2 ^ k := UInt64.toNat_ofNat_of_lt' fits
  change Float.Model.pack (UnpackedFloat.div .binary64 (Float.Model.ofNat (c * 2 ^ k).toUInt64.toNat).unpack
    (Float.ofScientific 1 false n).toModel.unpack) = _
  rw [word, ofScientific_eq_ofNat short, above, below, quotient]

theorem toNat_toBits {f : Float} {u : UnpackedFloat} (held : f.toModel = .pack u) :
    f.toBits.toNat = (u.pack .binary64).toNat := by
  change f.toModel.toBits.toNat = _
  rw [held]
  rfl

/-- If a fraction with a power of ten below lies in the interval of a double, then it is divided to this double, and its
negative to the negative double. -/
theorem toBits_quotient {c k n : ℕ} {bits : UInt64} (filled : 0 < c) (few : c < 2 ^ 53)
    (fits : c * 2 ^ k < 2 ^ 64) (short : n ≤ 22) (unsigned : bits.toNat < 2 ^ 63)
    (rounds : (Binary.ofBits bits).Rounds ((c * 2 ^ k : ℕ) / 10 ^ n)) :
    ((c * 2 ^ k).toUInt64.toFloat / Float.ofScientific 1 false n).toBits = bits ∧
      (-((c * 2 ^ k).toUInt64.toFloat / Float.ofScientific 1 false n)).toBits.toNat = 2 ^ 63 + bits.toNat := by
  have number := Binary.isNumber_ofBits bits
  obtain ⟨full, finite⟩ : 2 ^ 52 ≤ (Binary.ofBits bits).m ∧ (Binary.ofBits bits).q ≤ 971 := by
    have divisor : (10 : ℚ) ^ n ≤ 10 ^ 22 := by exact_mod_cast Nat.pow_le_pow_right (by decide) short
    have filled : 0 < c * 2 ^ k := by positivity
    have dividend : (1 : ℚ) ≤ (c * 2 ^ k : ℕ) := by exact_mod_cast filled
    have limit : ((c * 2 ^ k : ℕ) : ℚ) ≤ 2 ^ 64 := by exact_mod_cast fits.le
    refine rounds.full number ?_ ?_
    · exact div_le_div₀ (by positivity) dividend (by positivity) divisor
    · exact (div_le_self (by positivity) (one_le_pow₀ (by norm_num))).trans limit
  have packed := toModel_quotient number full filled few fits short rounds
  have size := Binary.toNat_ofBits unsigned full
  constructor
  · have none : Sign.positive.toBitVec.toNat = 0 := rfl
    apply UInt64.toNat_inj.mp
    rw [toNat_toBits packed, toNat_pack_finite full number.small number.least finite, size, none, Nat.zero_mul,
      Nat.zero_add]
  · have opposite : (-((c * 2 ^ k).toUInt64.toFloat / Float.ofScientific 1 false n)).toModel =
        .pack (.finite .negative (Binary.ofBits bits).m (Binary.ofBits bits).q (by omega)) := by
      change Float.Model.pack (Float.Model.unpack
        ((c * 2 ^ k).toUInt64.toFloat / Float.ofScientific 1 false n).toModel).neg = _
      rw [packed]
      change Float.Model.pack (UnpackedFloat.unpack .binary64 (UnpackedFloat.pack .binary64 _)).neg = _
      rw [unpack_pack_finite full number.small number.least finite]
      rfl
    have one : Sign.negative.toBitVec.toNat = 1 := rfl
    rw [toNat_toBits opposite, toNat_pack_finite full number.small number.least finite, size, one, Nat.one_mul,
      Nat.add_assoc]

end AppLauncher.Decimal
