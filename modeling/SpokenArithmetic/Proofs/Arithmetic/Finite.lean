import SpokenArithmetic.Proofs.Arithmetic.Decimal

set_option autoImplicit false

namespace SpokenArithmetic.Arithmetic

open Number

section Quarters

def quarter : Nat :=
  twoTo 1072

theorem one_quarters : one = 4 * quarter := by
  have places : 1074 = 1072 + 1 + 1 := rfl
  unfold one quarter
  rw [places, twoTo_succ, twoTo_succ]
  omega

theorem twoTo_pos (places : Nat) : 0 < twoTo places :=
  Nat.two_pow_pos places

theorem quarter_pos : 0 < quarter :=
  twoTo_pos 1072

theorem exactly_answerScale : exactly answerScale = .finite false (1000000 * one) := by
  decide +kernel

theorem exactly_half : exactly (0.5 : Float) = .finite false (2 * quarter) := by
  decide +kernel

theorem exactly_exactFrom : exactly exactFrom = .finite false (2 ^ 53 * one) := by
  decide +kernel

end Quarters

section Overflow

variable {x : Float} {y : ℚ} {negative : Bool} {units : Nat}

def halfAbove (places : Nat) : Nat :=
  (2 ^ 53 - 1) * 2 ^ (places + 1) + 2 ^ places

theorem two_pow_mul_one (places : Nat) : 2 ^ places * one = 2 ^ (places + 1074) := by
  have power (places : Nat) : twoTo places = 2 ^ places := rfl
  unfold one
  obtain ⟨unit, unitEq⟩ : exists unit, 1074 = unit := ⟨_, rfl⟩
  rw [unitEq, power, ← Nat.pow_add]

theorem halfAbove_eq (places : Nat) : halfAbove places = (2 ^ 54 - 1) * 2 ^ places := by
  rw [halfAbove, Nat.pow_succ]
  omega

theorem nearest_lt_overflow (nonneg : 0 <= y) (below : y < (halfAbove 970 * one : Nat)) : nearest y < overflow := by
  obtain ⟨last, lastEq⟩ : exists last, 970 + 1074 = last := ⟨_, rfl⟩
  have half : halfAbove 970 * one = (2 ^ 54 - 1) * 2 ^ last := by
    rw [halfAbove_eq, Nat.mul_assoc, two_pow_mul_one, lastEq]
  have small : last + 1 <= 2045 := by omega
  rw [half, Nat.cast_mul, Nat.cast_pow] at below
  by_cases normal : 2 ^ 52 * 2 ^ (last + 1) <= y
  next =>
    have power : (0 : ℚ) < 2 ^ last := by positivity
    have double : (2 : ℚ) ^ (last + 1) = 2 * 2 ^ last := pow_succ' 2 last
    have scaled : y / 2 ^ (last + 1) < 2 ^ 53 - 1 / 2 := by
      rw [double, div_lt_iff₀ (by positivity)]
      push_cast at below
      linarith
    have high : y < 2 ^ 53 * 2 ^ (last + 1) := by
      rw [← div_lt_iff₀ (by positivity)]
      linarith
    have leading := (isHalfEven_halfEven (show 0 <= y / 2 ^ (last + 1) by positivity)).high
    have cast : (halfEven (y / 2 ^ (last + 1)) : ℚ) < 2 ^ 53 := by linarith
    rw [nearest_at normal high]
    exact lt_overflow (by exact_mod_cast cast) small
  next =>
    have most : y <= (2 ^ 52 * 2 ^ (last + 1) : Nat) := by exact_mod_cast (not_le.1 normal).le
    exact (nearest_le (representable_mul_pow (by decide) _) nonneg most).trans_lt (lt_overflow (by decide) small)

theorem isFinite_eq_true : isFinite x = true ↔ exists negative units, exactly x = .finite negative units := by
  unfold isFinite
  cases exactly x <;> simp

theorem isFinite_of_nearest (same : exactly x = nearestExact negative y) (below : nearest y < overflow) :
    isFinite x = true :=
  isFinite_eq_true.2 ⟨_, _, same.trans (nearestExact_finite below negative)⟩

theorem exactly_nearest (finite : isFinite x = true) (same : exactly x = nearestExact negative y) :
    exactly x = .finite negative (nearest y) := by
  by_cases below : nearest y < overflow
  next => rw [same, nearestExact_finite below]
  next =>
    rw [nearestExact, if_neg below] at same
    rw [isFinite, same] at finite
    cases finite

theorem units_room (same : exactly x = .finite negative units) : units + 2 * one <= halfAbove 970 * one := by
  obtain ⟨representable, small⟩ := exactly_units same
  have shift := not_le.1 (mt overflow_le_iff.2 (not_le.2 small))
  have bits := lt_shiftOf units
  have leading : units / 2 ^ shiftOf units < 2 ^ 53 := by
    rwa [Nat.div_lt_iff_lt_mul (Nat.two_pow_pos _), ← Nat.pow_add]
  obtain ⟨places, placesEq⟩ : exists places, 970 = places := ⟨_, rfl⟩
  have power : 2 ^ shiftOf units <= 2 ^ (places + 1) * one := by
    rw [two_pow_mul_one]
    exact Nat.pow_le_pow_right (by decide) (by omega)
  have product := Nat.mul_le_mul (show units / 2 ^ shiftOf units <= 2 ^ 53 - 1 by omega) power
  rw [representable.parts, ← Nat.mul_assoc] at product
  have room : 2 * one <= 2 ^ places * one := Nat.mul_le_mul_right _ (Nat.le_self_pow (by omega) 2)
  rw [placesEq, halfAbove, Nat.add_mul]
  exact Nat.add_le_add product room

theorem units_below (same : exactly x = .finite negative units) : units / one + 1 < halfAbove 970 := by
  have room := units_room same
  have whole : (units / one + 2) * one <= units + 2 * one := by
    rw [Nat.add_mul]
    exact Nat.add_le_add_right (Nat.div_mul_le_self units one) _
  exact Nat.le_of_mul_le_mul_right (whole.trans room) (Nat.cast_pos.1 one_pos)

end Overflow

section Operations

variable {x : Float} {negative : Bool} {units : Nat} {value : Int}

theorem exactly_scaled (same : exactly x = .finite negative units) :
    exactly (x * answerScale) = nearestExact negative (units * 1000000) := by
  have product := exactly_mul same exactly_answerScale
  have value : (units : ℚ) * (1000000 * one : Nat) / one = units * 1000000 := by
    have positive := one_pos
    rw [Nat.cast_mul]
    field_simp
    norm_num
  rwa [value, Bool.bne_false] at product

theorem exactly_quotient (same : exactly x = .finite negative units) :
    exactly (x / answerScale) = nearestExact negative (units / 1000000) := by
  have quotient := exactly_div same exactly_answerScale
    (Nat.mul_pos (by decide) (Nat.cast_pos.1 one_pos)).ne'
  have value : (units : ℚ) / (1000000 * one : Nat) * one = units / 1000000 := by
    have positive := one_pos
    rw [Nat.cast_mul]
    field_simp
    norm_num
  rwa [value, Bool.bne_false] at quotient

theorem isFinite_div_scale (finite : isFinite x = true) : isFinite (x / answerScale) = true := by
  obtain ⟨negative, units, same⟩ := isFinite_eq_true.1 finite
  obtain ⟨representable, small⟩ := exactly_units same
  have nonneg : (0 : ℚ) <= units := Nat.cast_nonneg units
  have least := nearest_le representable (div_nonneg nonneg (by norm_num))
    (div_le_self nonneg (by norm_num : (1 : ℚ) <= 1000000))
  exact isFinite_of_nearest (exactly_quotient same) (least.trans_lt small)

theorem eq_of_sum_eq_zero {first second : Nat} (positive : 0 < second)
    (none : signed negative first + signed false second = 0) : negative = true ∧ first = second := by
  cases negative <;> simp only [signed, Bool.false_eq_true, if_false, if_true] at none
  next => omega
  next => exact ⟨rfl, by omega⟩

theorem natAbs_sum_le (first second : Nat) :
    (signed negative first + signed false second).natAbs <= first + second := by
  cases negative <;> simp only [signed, Bool.false_eq_true, if_false, if_true] <;> omega

/-- Adding a half to a finite value does not overflow: the half is less than what rounding up takes. -/
theorem isFinite_add_half (finite : isFinite x = true) : isFinite (x + 0.5) = true := by
  obtain ⟨negative, units, same⟩ := isFinite_eq_true.1 finite
  have positive := quarter_pos
  by_cases none : signed negative units + signed false (2 * quarter) = 0
  next =>
    obtain ⟨negativeEq, unitsEq⟩ := eq_of_sum_eq_zero (by omega) none
    rw [negativeEq, unitsEq] at same
    obtain rfl : x = -0.5 := eq_of_exactly same (exactly_neg exactly_half)
    decide
  next =>
    have below : (signed negative units + signed false (2 * quarter)).natAbs < halfAbove 970 * one := by
      have total := @natAbs_sum_le negative units (2 * quarter)
      have room := units_room same
      have unit := one_quarters
      omega
    exact isFinite_of_nearest (exactly_add same exactly_half none)
      (nearest_lt_overflow (Nat.cast_nonneg _) (Nat.cast_lt.2 below))

theorem exactly_ofInt_below (below : value.natAbs < halfAbove 970) :
    exactly (ofInt value) = .finite (decide (value < 0)) (nearest (value.natAbs * one)) := by
  have natural {n : Nat} (below : n < halfAbove 970) :
      exactly (Float.ofNat n) = .finite false (nearest (n * one)) := by
    have bound : (n : ℚ) * one < (halfAbove 970 * one : Nat) := by
      rw [← Nat.cast_mul, Nat.cast_lt]
      exact Nat.mul_lt_mul_of_pos_right below (Nat.cast_pos.1 one_pos)
    have nonneg : (0 : ℚ) <= n * one := mul_nonneg (Nat.cast_nonneg n) one_pos.le
    exact (exactly_ofNat n).trans (nearestExact_finite (nearest_lt_overflow nonneg bound) false)
  cases value with
  | ofNat n => exact natural below
  | negSucc n =>
    rw [decide_eq_true (Int.negSucc_lt_zero n)]
    exact exactly_neg (natural below)

theorem isFinite_ofInt (below : value.natAbs < halfAbove 970) : isFinite (ofInt value) = true :=
  isFinite_eq_true.2 ⟨_, _, exactly_ofInt_below below⟩

end Operations

section Answers

variable {x : Float}

theorem natAbs_floorUnits_le (negative : Bool) (units : Nat) :
    (floorUnits negative units).natAbs <= units / one + 1 := by
  have some : 0 < one := twoTo_pos 1074
  unfold floorUnits
  generalize one = denominator at *
  cases negative with
  | false =>
    rw [if_neg (by decide), ← Int.natCast_ediv, Int.natAbs_natCast]
    exact Nat.le_succ _
  | true =>
    have positive : (0 : Int) < denominator := Int.natCast_pos.2 some
    have above : (units : Int) < ((units / denominator : Nat) + 1 : Int) * denominator := by
      exact_mod_cast Nat.lt_mul_of_div_lt (Nat.lt_succ_self _) some
    have low : -((units / denominator : Nat) + 1 : Int) <= -(units : Int) / denominator := by
      apply Int.le_ediv_of_mul_le positive
      rw [Int.neg_mul]
      omega
    have high : -(units : Int) / denominator <= 0 := Int.ediv_le_of_le_mul positive (by omega)
    rw [if_pos rfl]
    omega

theorem floor?_below (finite : isFinite x = true) :
    exists value, floor? x = some value ∧ value.natAbs < halfAbove 970 := by
  obtain ⟨negative, units, same⟩ := isFinite_eq_true.1 finite
  have below := units_below same
  have bound := natAbs_floorUnits_le negative units
  refine ⟨floorUnits negative units, ?_, by omega⟩
  rw [floor?, same]

theorem isFinite_of_floor? {value : Int} (found : floor? x = some value) : isFinite x = true := by
  unfold floor? at found
  unfold isFinite
  split at found
  next => rfl
  next => cases found

theorem roundAnswer?_of_isFinite (finite : isFinite x = true) : exists answer, roundAnswer? x = some answer := by
  obtain ⟨negative, units, same⟩ := isFinite_eq_true.1 finite
  have scaled := exactly_scaled same
  unfold roundAnswer?
  dsimp only
  split
  next => exact ⟨x, rfl⟩
  next small =>
    have product : isFinite (x * answerScale) = true := by
      rw [nearestExact] at scaled
      split at scaled
      next => exact isFinite_eq_true.2 ⟨_, _, scaled⟩
      next => exact absurd (le_infinite exactly_exactFrom (exactly_abs_infinite scaled)) small
    obtain ⟨steps, found, _⟩ := floor?_below (isFinite_add_half product)
    rw [found]
    exact ⟨_, rfl⟩

end Answers

end SpokenArithmetic.Arithmetic
