import SpokenArithmetic.Proofs.Arithmetic.Answers
import SpokenArithmetic.Proofs.Arithmetic.Halves

set_option autoImplicit false

namespace SpokenArithmetic.Arithmetic

open Number

variable {x : Float} {n units : Nat}

theorem quarter_power : exists places, quarter = 2 ^ places ∧ one = 4 * 2 ^ places := by
  have power (places : Nat) : twoTo places = 2 ^ places := rfl
  rw [one_quarters]
  exact ⟨_, power _, congrArg (4 * ·) (power _)⟩

theorem scaled_error {bits : Nat} (small : n <= 2 ^ bits * 1000000) :
    |(nearest (stepped n) * 1000000 : ℚ) - n * one| <= 2 ^ bits * 1000000 / 2 ^ 54 * one := by
  obtain ⟨places, unit⟩ : exists places : Nat, (one : ℚ) = 2 ^ 53 * 2 ^ places := by
    have power : (one : ℚ) = 2 ^ (53 + 1021) := cast_one.trans (zpow_natCast 2 1074)
    obtain ⟨places, placesEq⟩ : exists places, 1021 = places := ⟨_, rfl⟩
    rw [placesEq] at power
    exact ⟨places, power.trans (pow_add _ _ _)⟩
  have positive := one_pos
  have cast : (n : ℚ) <= 2 ^ bits * 1000000 := by exact_mod_cast small
  have high : stepped n <= 2 ^ 53 * 2 ^ (bits + places) := by
    have same : (2 : ℚ) ^ 53 * 2 ^ (bits + places) = 2 ^ bits * one := by
      rw [unit]
      ring
    rw [same, stepped]
    exact mul_le_mul_of_nonneg_right ((div_le_iff₀ (by norm_num)).2 cast) positive.le
  have error := nearest_error_at (stepped_nonneg n) high
  have scale : stepped n * 1000000 = n * one := by
    rw [stepped]
    ring
  have bound : (2 : ℚ) ^ (bits + places) / 2 * 1000000 = 2 ^ bits * 1000000 / 2 ^ 54 * one := by
    rw [unit]
    ring
  have product := mul_le_mul_of_nonneg_right error (show (0 : ℚ) <= 1000000 by norm_num)
  rw [bound] at product
  rwa [← scale, ← sub_mul, abs_mul, abs_of_nonneg (show (0 : ℚ) <= 1000000 by norm_num)]

def millionths (units : Nat) : Nat :=
  roundHalfEven (units * 1000000) one

theorem millionths_eq (units : Nat) : millionths units = halfEven (units * 1000000 / one) := by
  rw [millionths, roundHalfEven_eq _ (Nat.cast_pos.1 one_pos), Nat.cast_mul, Nat.cast_ofNat]

theorem isHalfEven_millionths (units : Nat) : IsHalfEven (units * 1000000 / one) (millionths units) := by
  rw [millionths_eq]
  exact isHalfEven_halfEven (div_nonneg (mul_nonneg (Nat.cast_nonneg _) (by norm_num)) one_pos.le)

theorem le_millionths {whole : Nat} (least : whole * one <= units) : whole * 1000000 <= millionths units := by
  rw [millionths_eq]
  refine le_halfEven ?_
  rw [le_div_iff₀ one_pos]
  have scaled := Nat.mul_le_mul_right 1000000 least
  rw [Nat.mul_right_comm] at scaled
  exact_mod_cast scaled

theorem millionths_nearest (small : n <= 2 ^ 33 * 1000000) : millionths (nearest (stepped n)) = n := by
  have positive := one_pos
  have error := abs_le.1 (scaled_error small)
  rw [millionths_eq]
  generalize (one : ℚ) = unit at positive error ⊢
  refine halfEven_of_near ?_ ?_ (div_nonneg (by positivity) positive.le)
  next =>
    rw [div_lt_iff₀ positive]
    linarith
  next =>
    rw [lt_div_iff₀ positive]
    linarith

/-- The double nearest to so many millionths is rounded to a greater number of them than it is. -/
def Overstated (n : Nat) : Prop :=
  n < 2 ^ 52 ∧ (4 * n + 1) * quarter < nearest (stepped n) * 1000000 ∨
    2 ^ 52 <= n ∧ millionths (nearest (stepped n)) % 2 = 1 ∧ nearest (nearest (stepped n) * 1000000) < 2 ^ 53 * one

theorem quarters_of_error {bits : Nat} (small : n <= 2 ^ bits * 1000000) {count : Nat}
    (bound : 2 ^ bits * 1000000 <= count * 2 ^ 52) :
    ((4 * n - count) * quarter : Nat) <= (nearest (stepped n) * 1000000 : ℚ) ∧
      (nearest (stepped n) * 1000000 : ℚ) <= ((4 * n + count) * quarter : Nat) := by
  have positive : (0 : ℚ) < quarter := by exact_mod_cast quarter_pos
  have unit : (one : ℚ) = 4 * quarter := by exact_mod_cast one_quarters
  have error := abs_le.1 (scaled_error small)
  have cast : (2 : ℚ) ^ bits * 1000000 <= count * 2 ^ 52 := by exact_mod_cast bound
  rw [unit] at error
  rw [Nat.cast_mul, Nat.cast_mul]
  generalize (quarter : ℚ) = part at positive error ⊢
  have most : (2 : ℚ) ^ bits * 1000000 / 2 ^ 54 * (4 * part) <= count * part := by
    rw [div_mul_eq_mul_div, div_le_iff₀ (by positivity)]
    have product := mul_le_mul_of_nonneg_right cast positive.le
    linarith
  constructor
  next =>
    by_cases none : 4 * n <= count
    next =>
      rw [Nat.sub_eq_zero_of_le none, Nat.cast_zero, zero_mul]
      exact mul_nonneg (Nat.cast_nonneg _) (by norm_num)
    next =>
      rw [Nat.cast_sub (by omega)]
      push_cast
      linarith
  next =>
    push_cast
    linarith

theorem not_overstated (small : n < 2 ^ 32 * 1000000) : ¬ Overstated n := by
  rintro (⟨_, above⟩ | ⟨large, _⟩)
  next =>
    have near := (quarters_of_error small.le (show 2 ^ 32 * 1000000 <= 1 * 2 ^ 52 by decide)).2
    have close : nearest (stepped n) * 1000000 <= (4 * n + 1) * quarter := by exact_mod_cast near
    omega
  next => omega

theorem roundAnswer?_floors {places : Nat} (power : quarter = 2 ^ places) (same : exactly x = .finite false units)
    (small : nearest (units * 1000000) < 2 ^ 53 * one)
    (floors : Floors places (nearest (nearest (units * 1000000) + 2 * 2 ^ places : Nat)) n) (limit : n <= 2 ^ 53) :
    roundAnswer? x = some (ofInt n / answerScale) := by
  have unit (count : Nat) : 4 * count * quarter = count * one := by
    rw [one_quarters]
    ring
  have below := (exactly_units exactly_exactFrom).2
  have scaled := (exactly_scaled same).trans (nearestExact_finite (small.trans below) false)
  unfold Floors at floors
  rw [← power, unit, unit] at floors
  obtain ⟨least, most⟩ := floors
  have fits : (n + 1) * one < overflow := by
    have double : 2 ^ 54 * one < overflow := by
      have parts : 2 ^ 54 * one = 2 ^ 52 * (2 ^ 2 * one) := by rw [← Nat.mul_assoc, ← Nat.pow_add]
      rw [parts, two_pow_mul_one]
      exact lt_overflow (by decide) (by decide)
    exact (Nat.mul_le_mul_right one (by omega)).trans_lt double
  exact roundAnswer?_positive scaled small rfl (most.trans fits) least most

section Back

theorem one_distances : exists places, one = 2 ^ 19 * 2 ^ places := by
  have power (places : Nat) : twoTo places = 2 ^ places := rfl
  obtain ⟨places, placesEq⟩ : exists places, 1055 = places := ⟨_, rfl⟩
  have total : 1074 = 19 + places := by omega
  unfold one
  rw [total, power, Nat.pow_add]
  exact ⟨places, rfl⟩

theorem nearest_millionths (representable : Representable units) (least : 2 ^ 33 * one <= units)
    (small : millionths units < 2 ^ 53) : nearest (stepped (millionths units)) = units := by
  obtain ⟨places, power⟩ := one_distances
  have leading : 2 ^ 52 * 2 ^ places <= units := by
    rw [power, ← Nat.mul_assoc] at least
    exact (Nat.mul_le_mul_right _ (by decide)).trans least
  obtain ⟨count, rfl, countLeast⟩ := exists_count representable leading
  have positive := one_pos
  have near := isHalfEven_millionths (count * 2 ^ places)
  have some := le_millionths least
  generalize millionths (count * 2 ^ places) = m at *
  have low := (div_le_iff₀ positive).1 near.low
  have high := (le_div_iff₀ positive).1 near.high
  have someCast : (2 : ℚ) ^ 33 * 1000000 <= m := by exact_mod_cast some
  have smallCast : (m : ℚ) < 2 ^ 53 := by exact_mod_cast small
  have unit : (one : ℚ) = 2 ^ 19 * 2 ^ places := by exact_mod_cast power
  rw [unit] at low high
  push_cast at low high
  have step : (0 : ℚ) < 2 ^ places := by positivity
  have value : stepped m = m / 1000000 * 2 ^ 19 * 2 ^ places := by
    rw [stepped, unit]
    ring
  clear least leading positive near unit power
  have inside : (2 : ℚ) ^ 52 <= m / 1000000 * 2 ^ 19 ∧ (m : ℚ) / 1000000 * 2 ^ 19 < 2 ^ 53 :=
    ⟨by linarith, by linarith⟩
  rw [value, @nearest_at _ places (mul_le_mul_of_nonneg_right inside.1 step.le)
    (mul_lt_mul_of_pos_right inside.2 step), mul_div_assoc, div_self step.ne', mul_one]
  refine congrArg (· * 2 ^ places) (halfEven_of_near ?_ ?_ (by positivity))
  next =>
    have bound : ((m : ℚ) - 1 / 2) * 2 ^ 19 <= count * 1000000 :=
      le_of_mul_le_mul_right (by linarith) step
    linarith
  next =>
    have bound : (count : ℚ) * 1000000 <= (m + 1 / 2) * 2 ^ 19 :=
      le_of_mul_le_mul_right (by linarith) step
    linarith

end Back

theorem integer_le_stepped {whole : Nat} (small : whole < 2 ^ 53) (large : whole * 1000000 <= n) :
    whole * one <= nearest (stepped n) := by
  refine le_nearest (representable_integer small).1 ?_
  have cast : (whole : ℚ) <= n / 1000000 := by
    rw [le_div_iff₀ (by norm_num)]
    exact_mod_cast large
  rw [Nat.cast_mul]
  exact mul_le_mul_of_nonneg_right cast one_pos.le

theorem integer_le_scaled (large : 2 ^ 52 < n) : 2 ^ 52 * one <= nearest (stepped n) * 1000000 := by
  by_cases fine : n <= 2 ^ 33 * 1000000
  next =>
    have low := (quarters_of_error fine (show 2 ^ 33 * 1000000 <= 2 * 2 ^ 52 by decide)).1
    have least : 2 ^ 52 * one <= (4 * n - 2) * quarter := by
      rw [one_quarters, ← Nat.mul_assoc]
      exact Nat.mul_le_mul_right _ (by omega)
    exact least.trans (by exact_mod_cast low)
  next =>
    have low := Nat.mul_le_mul_right 1000000 (@integer_le_stepped n (2 ^ 33) (by decide) (by omega))
    rw [Nat.mul_right_comm] at low
    exact (Nat.mul_le_mul_right one (by decide)).trans low

theorem scaled_below (small : n < 2 ^ 33 * 1000000) :
    nearest (nearest (stepped n) * 1000000) < 2 ^ 53 * one := by
  have high := (quarters_of_error small.le (show 2 ^ 33 * 1000000 <= 2 * 2 ^ 52 by decide)).2
  have next : (4 * n + 2) * quarter <= (n + 1) * one := by
    rw [one_quarters, ← Nat.mul_assoc]
    exact Nat.mul_le_mul_right _ (by omega)
  have most := nearest_le (@representable_integer (n + 1) (by omega)).1 (mul_nonneg (Nat.cast_nonneg _) (by norm_num))
    (high.trans (by exact_mod_cast next))
  exact most.trans_lt (Nat.mul_lt_mul_of_pos_right (by omega) (Nat.cast_pos.1 one_pos))

section Stepped

variable (same : exactly x = .finite false (nearest (stepped n)))
include same

theorem eq_steps (small : n < 2 ^ 53) : ofInt n / answerScale = x := by
  have steps := @exactly_steps n (by simpa using small)
  rw [Int.natAbs_natCast, decide_eq_false (by omega)] at steps
  exact eq_of_exactly steps same

theorem rounds_below (small : n < 2 ^ 52) :
    (¬ Overstated n -> roundAnswer? x = some x) ∧
      (Overstated n -> roundAnswer? x = some (ofInt (millionths (nearest (stepped n)) + 1 : Nat) / answerScale)) := by
  obtain ⟨places, power, _⟩ := quarter_power
  obtain ⟨low, high⟩ := quarters_of_error (show n <= 2 ^ 33 * 1000000 by omega)
    (show 2 ^ 33 * 1000000 <= 2 * 2 ^ 52 by decide)
  have limit := scaled_below (show n < 2 ^ 33 * 1000000 by omega)
  constructor
  next =>
    intro steady
    have near : ((nearest (stepped n) * 1000000 : Nat) : ℚ) <= ((4 * n + 1) * quarter : Nat) := by
      exact_mod_cast not_lt.1 fun above => steady (.inl ⟨small, above⟩)
    rw [power] at low near
    have floors := floors_below small low (by exact_mod_cast near)
    rw [roundAnswer?_floors power same limit floors (by omega), eq_steps same (by omega)]
  next =>
    rintro (⟨_, above⟩ | ⟨large, _⟩)
    next =>
      have least : 2 ^ 51 <= n := by
        by_contra less
        exact not_overstated (by omega) (.inl ⟨small, above⟩)
      have more : (4 * n + 2) * quarter < (4 * n + 3) * quarter := Nat.mul_lt_mul_of_pos_right (by omega) quarter_pos
      have below : (nearest (stepped n) * 1000000 : ℚ) < ((4 * n + 3) * quarter : Nat) :=
        high.trans_lt (by exact_mod_cast more)
      have beyond : ((4 * n + 1) * quarter : Nat) < (nearest (stepped n) * 1000000 : ℚ) := by exact_mod_cast above
      rw [power] at below beyond
      rw [millionths_nearest (by omega)]
      exact roundAnswer?_floors power same limit (floors_next least small beyond below) (by omega)
    next => omega

theorem eq_millionths (small : millionths (nearest (stepped n)) < 2 ^ 53) :
    ofInt (millionths (nearest (stepped n))) / answerScale = x := by
  by_cases fine : n <= 2 ^ 33 * 1000000
  next =>
    rw [millionths_nearest fine] at small ⊢
    exact eq_steps same small
  next =>
    have own := nearest_millionths (representable_nearest (stepped_nonneg n))
      (integer_le_stepped (by decide) (by omega)) small
    rw [← own] at same
    exact eq_steps same small

-- From 2^52 millionths on it matters whether their number is odd.
theorem rounds_above (large : 2 ^ 52 <= n) (below : nearest (nearest (stepped n) * 1000000) < 2 ^ 53 * one) :
    (millionths (nearest (stepped n)) % 2 = 0 -> roundAnswer? x = some x) ∧
      (millionths (nearest (stepped n)) % 2 = 1 ->
        roundAnswer? x = some (ofInt (millionths (nearest (stepped n)) + 1 : Nat) / answerScale)) := by
  obtain ⟨places, power, unit⟩ := quarter_power
  by_cases first : n = 2 ^ 52
  next =>
    obtain ⟨low, high⟩ := quarters_of_error (show n <= 2 ^ 33 * 1000000 by omega)
      (show 2 ^ 33 * 1000000 <= 2 * 2 ^ 52 by decide)
    rw [power] at low high
    have floors := floors_even large (by omega) (by omega) low high
    rw [millionths_nearest (by omega), roundAnswer?_floors power same below floors (by omega), eq_steps same (by omega)]
    exact ⟨fun _ => rfl, fun odd => by omega⟩
  next =>
    have least : ((2 ^ 52 * one : Nat) : ℚ) <= nearest (stepped n) * 1000000 := by
      exact_mod_cast integer_le_scaled (show 2 ^ 52 < n by omega)
    have four : one = 2 ^ (places + 2) := by
      rw [unit]
      ring
    have fits : nearest (nearest (stepped n) * 1000000) < 4 * 2 ^ 53 * 2 ^ places := by
      rw [unit] at below
      linarith
    obtain ⟨value, leading, limit⟩ := @nearest_integers (nearest (stepped n) * 1000000) places
      (by rw [four] at least; exact_mod_cast least) fits
    have count : halfEven (nearest (stepped n) * 1000000 / 2 ^ (places + 2)) = millionths (nearest (stepped n)) := by
      rw [millionths_eq, four, Nat.cast_pow, Nat.cast_ofNat]
    rw [count] at value leading limit
    have floors := @floors_integer _ places leading limit
    rw [← value] at floors
    have rounds := roundAnswer?_floors power same below floors (by omega)
    constructor
    next =>
      intro even
      rw [rounds, even, Nat.add_zero, eq_millionths same limit]
    next =>
      intro odd
      rw [rounds, odd]

theorem roundAnswer?_stepped :
    (¬ Overstated n -> roundAnswer? x = some x) ∧
      (Overstated n -> roundAnswer? x = some (ofInt (millionths (nearest (stepped n)) + 1 : Nat) / answerScale)) := by
  by_cases small : n < 2 ^ 52
  next => exact rounds_below same small
  by_cases below : nearest (nearest (stepped n) * 1000000) < 2 ^ 53 * one
  next =>
    obtain ⟨even, odd⟩ := rounds_above same (not_lt.1 small) below
    constructor
    next =>
      intro steady
      refine even (Nat.mod_two_ne_one.1 fun isOdd => steady (.inr ⟨not_lt.1 small, isOdd, below⟩))
    next =>
      rintro (⟨less, _⟩ | ⟨_, isOdd, _⟩)
      next => omega
      next => exact odd isOdd
  next =>
    refine ⟨fun _ => roundAnswer?_large same (not_lt.1 below), ?_⟩
    rintro (⟨less, _⟩ | ⟨_, _, less⟩) <;> omega

end Stepped

theorem overstated_iff_odd (large : 2 ^ 52 <= n) (small : n < 2 ^ 33 * 1000000) : Overstated n ↔ n % 2 = 1 := by
  have below : nearest (nearest (stepped n) * 1000000) < 2 ^ 53 * one := scaled_below small
  unfold Overstated
  rw [millionths_nearest small.le]
  omega

theorem next_ne (same : exactly x = .finite false (nearest (stepped n))) (small : n < 2 ^ 33 * 1000000) :
    ofInt (n + 1 : Nat) / answerScale ≠ x := by
  intro equal
  have steps := @exactly_steps (n + 1 : Nat) (by rw [Int.natAbs_natCast]; omega)
  rw [equal, same, Int.natAbs_natCast] at steps
  have units := (Exact.finite.inj steps).2
  have first := millionths_nearest small.le
  rw [units, millionths_nearest (show n + 1 <= 2 ^ 33 * 1000000 by omega)] at first
  omega

end SpokenArithmetic.Arithmetic
