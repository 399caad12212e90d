import AppLauncher.Proofs.Decimal.Interval

/-!
The decimal that is written for a number is one that is rounded to the number. If a decimal of a few digits is rounded
to it, then the one that is written has no more than a few digits either.
-/
namespace AppLauncher.Decimal

namespace Binary

variable {x : Binary} {d : Scaled} {exponent : ℤ}

/-! ### Places -/

/-- The position of the first binary digit of a number. -/
def leading (x : Binary) : ℤ := (Nat.log2 x.m : ℤ) + x.q

theorem two_zpow_leading_le (filled : 0 < x.m) : (2 : ℚ) ^ x.leading ≤ x.value := by
  have first : ((2 ^ Nat.log2 x.m : ℕ) : ℚ) ≤ x.m := Nat.cast_le.mpr (Nat.log2_self_le filled.ne')
  rw [leading, zpow_add₀ (by norm_num), zpow_natCast]
  push_cast at first
  exact mul_le_mul_of_nonneg_right first (two_zpow_pos x.q).le

theorem value_lt_two_zpow (filled : 0 < x.m) : x.value < (2 : ℚ) ^ (x.leading + 1) := by
  have next : (x.m : ℚ) < ((2 ^ (Nat.log2 x.m + 1) : ℕ) : ℚ) :=
    Nat.cast_lt.mpr ((Nat.log2_lt filled.ne').mp (Nat.lt_succ_self _))
  have apart : x.leading + 1 = ((Nat.log2 x.m + 1 : ℕ) : ℤ) + x.q := by
    rw [leading]
    push_cast
    ring
  rw [apart, zpow_add₀ (by norm_num), zpow_natCast]
  push_cast at next
  exact mul_lt_mul_of_pos_right next (two_zpow_pos x.q)

/-- The powers of ten that are guessed from a power of two enclose it, as far as the exponents of numbers go. -/
theorem guess_encloses {leading : ℤ} (least : -1074 ≤ leading) (greatest : leading ≤ 1024) :
    (10 : ℚ) ^ (leading * 30103 / 100000 - 2) ≤ 2 ^ leading ∧
      (2 : ℚ) ^ (leading + 1) ≤ 10 ^ (leading * 30103 / 100000 + 2) := by
  have each : (List.range 2099).all fun n : ℕ => let leading : ℤ := (n : ℤ) - 1074
      compareScaled 1 (leading * 30103 / 100000 - 2) 1 leading ≠ .gt ∧
        compareScaled 1 (leading * 30103 / 100000 + 2) 1 (leading + 1) ≠ .lt := by
    decide +kernel
  have position : ((leading + 1074).toNat : ℤ) - 1074 = leading := by omega
  have ⟨below, above⟩ := of_decide_eq_true (List.all_eq_true.mp each (leading + 1074).toNat (by simp; omega))
  rw [position, compareScaled_eq, Nat.cast_one, one_mul, one_mul] at below
  rw [position, compareScaled_eq, Nat.cast_one, one_mul, one_mul] at above
  exact ⟨compare_le_iff_le.mp below, compare_ge_iff_ge.mp above⟩

theorem leading_bounds (number : x.IsNumber) (filled : 0 < x.m) : -1074 ≤ x.leading ∧ x.leading ≤ 1024 := by
  have small : Nat.log2 x.m < 53 := (Nat.log2_lt filled.ne').mpr number.small
  have least := number.least
  have greatest := number.greatest
  unfold leading
  omega

/-- The places are the least ones that the number fits into. -/
theorem places_spec (number : x.IsNumber) (filled : 0 < x.m) :
    x.value < 10 ^ x.places ∧ ∀ k : ℤ, x.value < 10 ^ k → x.places ≤ k := by
  obtain ⟨least, greatest⟩ := leading_bounds number filled
  obtain ⟨below, above⟩ := guess_encloses least greatest
  have fits (k : ℤ) : compareScaled 1 k x.m x.q = .gt ↔ x.value < 10 ^ k := by
    rw [compareScaled_eq, compare_gt_iff_gt, Nat.cast_one, one_mul]
    rfl
  have before {i k : ℤ} (reaches : (10 : ℚ) ^ i ≤ x.value) (within : x.value < 10 ^ k) : i < k :=
    (zpow_lt_zpow_iff_right₀ (by norm_num)).mp (reaches.trans_lt within)
  have reaches : (10 : ℚ) ^ (x.leading * 30103 / 100000 - 2) ≤ x.value := below.trans (two_zpow_leading_le filled)
  have within : x.value < 10 ^ (x.leading * 30103 / 100000 + 2) := (value_lt_two_zpow filled).trans_le above
  unfold places
  rw [← leading]
  generalize x.leading * 30103 / 100000 = guess at reaches within ⊢
  simp only [fits]
  split_ifs with one two three
  · exact ⟨one, fun k fits => by have := before reaches fits; omega⟩
  · exact ⟨two, fun k fits => by have := before (not_lt.mp one) fits; omega⟩
  · exact ⟨three, fun k fits => by have := before (not_lt.mp two) fits; omega⟩
  · exact ⟨within, fun k fits => by have := before (not_lt.mp three) fits; omega⟩

/-! ### Grids -/

/-- The number lies between two neighbours on each grid. -/
theorem below_spec (x : Binary) (exponent : ℤ) :
    x.below exponent * 10 ^ exponent ≤ x.value ∧ x.value < (x.below exponent + 1 : ℕ) * 10 ^ exponent := by
  have tens := zpow_mul_pow_toNat_neg (b := 10) (by norm_num) exponent
  have twos := zpow_mul_pow_toNat_neg (b := 2) (by norm_num) x.q
  unfold below
  simp only [Nat.pow_eq]
  have positive : 0 < 10 ^ exponent.toNat * 2 ^ (-x.q).toNat := by positivity
  have whole : ((x.m * 2 ^ x.q.toNat * 10 ^ (-exponent).toNat : ℕ) : ℚ) * 10 ^ exponent =
      x.value * ((10 ^ exponent.toNat * 2 ^ (-x.q).toNat : ℕ) : ℚ) := by
    push_cast
    rw [← tens, ← twos, value]
    ring
  generalize x.m * 2 ^ x.q.toNat * 10 ^ (-exponent).toNat = n at whole ⊢
  generalize 10 ^ exponent.toNat * 2 ^ (-x.q).toNat = m at positive whole ⊢
  have divisor : (0 : ℚ) < m := Nat.cast_pos.mpr positive
  have lower : ((n / m : ℕ) : ℚ) * m ≤ n := by exact_mod_cast Nat.div_mul_le_self n m
  have upper : (n : ℚ) < ((n / m + 1 : ℕ) : ℚ) * m := by
    rw [mul_comm]
    exact_mod_cast Nat.lt_mul_div_succ n positive
  constructor
  · apply le_of_mul_le_mul_right _ divisor
    rw [← whole, mul_right_comm]
    exact mul_le_mul_of_nonneg_right lower (ten_zpow_pos exponent).le
  · apply lt_of_mul_lt_mul_right _ divisor.le
    rw [← whole, mul_right_comm]
    exact mul_lt_mul_of_pos_right upper (ten_zpow_pos exponent)

/-- What a grid gives is one of the two neighbours on it, and is rounded to the number. -/
theorem onGrid?_eq_some (found : x.onGrid? exponent = some d) :
    d.exponent = exponent ∧ x.readsBack d ∧ d.digits ≤ x.below exponent + 1 := by
  unfold onGrid? at found
  cases lower : x.readsBack ⟨x.below exponent, exponent⟩ <;>
    cases upper : x.readsBack ⟨x.below exponent + 1, exponent⟩ <;>
    simp only [List.filter, lower, upper, reduceCtorEq, Option.some_inj] at found
  · subst found
    exact ⟨rfl, upper, le_rfl⟩
  · subst found
    exact ⟨rfl, lower, Nat.le_succ _⟩
  · split at found <;> cases found
    · exact ⟨rfl, upper, le_rfl⟩
    · exact ⟨rfl, lower, Nat.le_succ _⟩
    · split_ifs
      · exact ⟨rfl, lower, Nat.le_succ _⟩
      · exact ⟨rfl, upper, le_rfl⟩

/-- A grid that is fine enough for a decimal that is rounded to the number gives one. -/
theorem exists_onGrid? (filled : 0 < x.m) (reads : x.readsBack d) (fine : exponent ≤ d.exponent) :
    ∃ found, x.onGrid? exponent = some found := by
  have rounds := (readsBack_iff filled).mp reads
  obtain ⟨lower, upper⟩ := below_spec x exponent
  obtain ⟨n, same⟩ : ∃ n : ℕ, d.value = n * 10 ^ exponent := by
    obtain ⟨shift, apart⟩ : ∃ shift : ℕ, d.exponent = shift + exponent := ⟨(d.exponent - exponent).toNat, by omega⟩
    refine ⟨d.digits * 10 ^ shift, ?_⟩
    rw [Scaled.value, apart, zpow_add₀ (by norm_num), zpow_natCast, Nat.cast_mul, Nat.cast_pow, mul_assoc]
    rfl
  have neighbour : x.readsBack ⟨x.below exponent, exponent⟩ ∨ x.readsBack ⟨x.below exponent + 1, exponent⟩ := by
    rw [readsBack_iff filled, readsBack_iff filled]
    rcases Nat.lt_or_ge (x.below exponent) n with above | below
    · refine .inr (rounds.of_above upper.le ?_)
      rw [same]
      exact mul_le_mul_of_nonneg_right (Nat.cast_le.mpr above) (ten_zpow_pos exponent).le
    · refine .inl (rounds.of_below ?_ lower)
      rw [same]
      exact mul_le_mul_of_nonneg_right (Nat.cast_le.mpr below) (ten_zpow_pos exponent).le
  unfold onGrid?
  cases lower : x.readsBack ⟨x.below exponent, exponent⟩ <;>
    cases upper : x.readsBack ⟨x.below exponent + 1, exponent⟩ <;>
    simp only [lower, upper, List.filter, Option.some_inj, exists_eq'] at neighbour ⊢
  · simp at neighbour
  · split <;> exact ⟨_, rfl⟩

/-! ### The search -/

/-- All digits of a number make a decimal of the same value. -/
theorem value_digits (x : Binary) :
    Scaled.value ⟨x.m * Nat.pow 2 x.q.toNat * Nat.pow 5 (-x.q).toNat, if x.q < 0 then x.q else 0⟩ = x.value := by
  simp only [Nat.pow_eq, Scaled.value]
  push_cast
  rw [value]
  split_ifs with negative
  · have fives := zpow_mul_pow_toNat_neg (b := 5) (by norm_num) x.q
    have none : x.q.toNat = 0 := by omega
    rw [none, pow_zero] at fives ⊢
    calc (x.m : ℚ) * 1 * 5 ^ (-x.q).toNat * 10 ^ x.q
        = x.m * 2 ^ x.q * (5 ^ x.q * 5 ^ (-x.q).toNat) := by
          rw [show (10 : ℚ) = 2 * 5 by norm_num, mul_zpow]
          ring
      _ = x.m * 2 ^ x.q := by rw [fives, mul_one]
  · have none : (-x.q).toNat = 0 := by omega
    have whole : (2 : ℚ) ^ x.q.toNat = 2 ^ x.q := by
      rw [← zpow_natCast]
      congr 1
      omega
    rw [none, whole, pow_zero, zpow_zero, mul_one, mul_one]

theorem readsBack_search (filled : 0 < x.m) (places : ℤ) (grids digits : ℕ) :
    x.readsBack (x.search places grids digits) := by
  induction grids generalizing digits with
  | zero =>
    rw [search, readsBack_iff filled, value_digits]
    exact x.rounds_value
  | succ grids ih =>
    rw [search]
    split
    next found => exact (onGrid?_eq_some found).2.1
    next => exact ih (digits + 1)

/-- The search stops at the first grid that gives a decimal. -/
theorem exists_search {places : ℤ} {last : ℕ} (given : ∃ found, x.onGrid? (places - last) = some found) :
    ∀ {grids digits : ℕ}, digits ≤ last → last < digits + grids →
      ∃ n ≤ last, x.onGrid? (places - n) = some (x.search places grids digits)
  | 0, digits, before, after => absurd after (by omega)
  | grids + 1, digits, before, after => by
    rw [search]
    split
    next found => exact ⟨digits, before, found⟩
    next none =>
      rcases before.eq_or_lt with rfl | before
      · obtain ⟨found, given⟩ := given
        cases none.symm.trans given
      · exact exists_search given before (by omega)

theorem low_pos (filled : 0 < x.m) : 0 < x.low := by
  have one : (1 : ℚ) ≤ x.m := Nat.one_le_cast.mpr filled
  apply mul_pos _ (two_zpow_pos x.q)
  split_ifs <;> linarith

theorem digits_pos (filled : 0 < x.m) (reads : x.readsBack d) : 0 < d.digits := by
  have above := (low_pos filled).trans_le ((readsBack_iff filled).mp reads).low_le
  have positive : (0 : ℚ) < d.digits := (mul_pos_iff_of_pos_right (ten_zpow_pos d.exponent)).mp above
  exact Nat.cast_pos.mp positive

end Binary

/-! ### Zeros at the end -/

namespace Scaled

theorem value_tenfold (d : Scaled) (ends : d.digits % 10 = 0) :
    Scaled.value ⟨d.digits / 10, d.exponent + 1⟩ = d.value := by
  have whole : ((d.digits / 10 : ℕ) : ℚ) * 10 = d.digits := by
    exact_mod_cast Nat.div_mul_cancel (Nat.dvd_of_mod_eq_zero ends)
  rw [value, value, zpow_add_one₀ (by norm_num), ← whole]
  ring

theorem value_stripped (zeros : ℕ) (d : Scaled) : (stripped zeros d).value = d.value := by
  induction zeros generalizing d with
  | zero => rfl
  | succ zeros ih =>
    rw [stripped]
    split_ifs with ends
    · rw [ih, value_tenfold d ends.1]
    · rfl

theorem stripped_le (zeros : ℕ) (d : Scaled) :
    (stripped zeros d).digits ≤ d.digits ∧ d.exponent ≤ (stripped zeros d).exponent := by
  induction zeros generalizing d with
  | zero => exact ⟨le_rfl, le_rfl⟩
  | succ zeros ih =>
    rw [stripped]
    split_ifs
    · obtain ⟨fewer, coarser⟩ := ih ⟨d.digits / 10, d.exponent + 1⟩
      exact ⟨fewer.trans (Nat.div_le_self _ _), le_trans (by simp) coarser⟩
    · exact ⟨le_rfl, le_rfl⟩

/-- A decimal of at most fifteen digits, or of a one and zeros, that has at most twenty-two places after the point. -/
structure IsBrief (d : Scaled) : Prop where
  filled : 0 < d.digits
  few : d.digits ≤ 10 ^ 15
  fine : -22 ≤ d.exponent
  small : d.value ≤ 10 ^ 15

end Scaled

/-! ### What is written -/

variable {bits : UInt64}

/-- The decimal that is written for a number is rounded to it. -/
theorem readsBack_shortest (filled : 0 < (Binary.ofBits bits).m) :
    (Binary.ofBits bits).readsBack (shortest bits) := by
  rw [Binary.readsBack_iff filled, shortest, Scaled.value_stripped, ← Binary.readsBack_iff filled]
  exact Binary.readsBack_search filled _ _ _

namespace Binary

variable {x : Binary} {d k : ℕ}

/-- A number that a decimal of at most fifteen digits is rounded to has no more places than that. -/
theorem places_of_short (number : x.IsNumber) (filled : 0 < x.m) (few : d < 10 ^ 15) (fine : k ≤ 21)
    (reads : x.readsBack ⟨d, -k⟩) : -(k : ℤ) ≤ x.places ∧ x.places ≤ 15 - k := by
  have rounds := (readsBack_iff filled).mp reads
  obtain ⟨within, least⟩ := places_spec number filled
  have some : (1 : ℚ) ≤ d := Nat.one_le_cast.mpr (digits_pos filled reads)
  have most : (d : ℚ) ≤ 10 ^ 15 - 1 := by
    have next : ((d + 1 : ℕ) : ℚ) ≤ ((10 ^ 15 : ℕ) : ℚ) := Nat.cast_le.mpr few
    push_cast at next
    linarith
  have one : (1 : ℚ) ≤ x.m := Nat.one_le_cast.mpr filled
  have unit : (0 : ℚ) < 10 ^ (-(k : ℤ)) := ten_zpow_pos _
  have step : (0 : ℚ) < 2 ^ x.q := two_zpow_pos x.q
  have above : (d : ℚ) * 10 ^ (-(k : ℤ)) ≤ (x.m + 1 / 2) * 2 ^ x.q := rounds.le_high
  have below : (x.m - 1 / 2 : ℚ) * 2 ^ x.q ≤ d * 10 ^ (-(k : ℤ)) := by
    refine le_trans (mul_le_mul_of_nonneg_right ?_ step.le) rounds.low_le
    split_ifs <;> linarith
  have fewTenths : (10 : ℚ) ^ (-(k : ℤ) - 1) = 10 ^ (-(k : ℤ)) / 10 := by
    rw [zpow_sub_one₀ (by norm_num), div_eq_mul_inv]
  have many : (10 : ℚ) ^ (15 - (k : ℤ)) = 10 ^ 15 * 10 ^ (-(k : ℤ)) := by
    rw [sub_eq_add_neg, zpow_add₀ (by norm_num)]
    rfl
  constructor
  · have reaches : (10 : ℚ) ^ (-(k : ℤ) - 1) < x.value := by
      rw [fewTenths, value]
      nlinarith
    have before : -(k : ℤ) - 1 < x.places := (zpow_lt_zpow_iff_right₀ (by norm_num)).mp (reaches.trans within)
    omega
  · apply least
    by_contra! beyond
    rw [many, value] at beyond
    -- The decimal is so far below the number that a unit of its last place is less than a unit of the number's last.
    have narrow : 2 * (10 : ℚ) ^ (-(k : ℤ)) ≤ 2 ^ x.q := by nlinarith
    rcases number.full with full | least
    · have full : (2 : ℚ) ^ 52 ≤ x.m := by exact_mod_cast full
      nlinarith
    · have tiny : (2 : ℚ) ^ x.q ≤ 2 ^ (-70 : ℤ) := zpow_le_zpow_right₀ (by norm_num) (by omega)
      have coarse : (10 : ℚ) ^ (-21 : ℤ) ≤ 10 ^ (-(k : ℤ)) := zpow_le_zpow_right₀ (by norm_num) (by omega)
      have apart : (2 : ℚ) ^ (-70 : ℤ) < 2 * 10 ^ (-21 : ℤ) := by norm_num
      linarith

/-- What the search gives then has few digits and few places after the point. -/
theorem search_of_short (number : x.IsNumber) (filled : 0 < x.m) (few : d < 10 ^ 15) (fine : k ≤ 21)
    (reads : x.readsBack ⟨d, -k⟩) : (x.search x.places 17 1).IsBrief := by
  obtain ⟨least, greatest⟩ := places_of_short number filled few fine reads
  have within := (places_spec number filled).1
  let last := max 1 (x.places + k).toNat
  have reached : x.places - (last : ℕ) ≤ -(k : ℤ) := by omega
  obtain ⟨n, before, found⟩ : ∃ n ≤ last, x.onGrid? (x.places - n) = some (x.search x.places 17 1) :=
    exists_search (exists_onGrid? filled reads reached) (le_max_left _ _) (by omega)
  generalize x.search x.places 17 1 = result at found ⊢
  obtain ⟨exponent, counts, digits⟩ := onGrid?_eq_some found
  have lower := (below_spec x (x.places - n)).1
  have apart : (10 : ℚ) ^ x.places = 10 ^ n * 10 ^ (x.places - (n : ℤ)) := by
    rw [← zpow_natCast, ← zpow_add₀ (by norm_num), add_sub_cancel]
  have bound : result.digits ≤ 10 ^ n := by
    have below : x.below (x.places - n) < 10 ^ n := by
      have upper := lower.trans_lt within
      rw [apart] at upper
      exact_mod_cast lt_of_mul_lt_mul_right upper (ten_zpow_pos _).le
    exact digits.trans below
  refine ⟨digits_pos filled counts, bound.trans (Nat.pow_le_pow_right (by decide) (by omega)), by omega, ?_⟩
  calc result.value
      ≤ (10 : ℚ) ^ n * 10 ^ (x.places - (n : ℤ)) := by
        rw [Scaled.value, exponent]
        exact mul_le_mul_of_nonneg_right (by exact_mod_cast bound) (ten_zpow_pos _).le
    _ = 10 ^ x.places := apart.symm
    _ ≤ 10 ^ (15 : ℤ) := zpow_le_zpow_right₀ (by norm_num) (by omega)
    _ = 10 ^ 15 := by norm_num

end Binary

/-- If a decimal of at most fifteen digits is rounded to a number, then what is written for the number is no longer. -/
theorem isBrief_shortest {d k : ℕ} (filled : 0 < (Binary.ofBits bits).m) (few : d < 10 ^ 15) (fine : k ≤ 21)
    (reads : (Binary.ofBits bits).readsBack ⟨d, -k⟩) : (shortest bits).IsBrief := by
  have brief := Binary.search_of_short (Binary.isNumber_ofBits bits) filled few fine reads
  have ⟨fewer, coarser⟩ := Scaled.stripped_le 17 ((Binary.ofBits bits).search (Binary.ofBits bits).places 17 1)
  exact {
    filled := Binary.digits_pos filled (readsBack_shortest filled)
    few := fewer.trans brief.few
    fine := brief.fine.trans coarser
    small := (Scaled.value_stripped _ _).trans_le brief.small }

end AppLauncher.Decimal
