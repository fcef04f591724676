import SpokenArithmetic.Proofs.Arithmetic.Finite

set_option autoImplicit false

namespace SpokenArithmetic.Arithmetic

open Number

section Quarters

variable {y : ℚ} {low high units n : Nat}

theorem one_large : 2 ^ 72 <= one := by
  have grows {low high : Nat} (le : low <= high) : 2 ^ low <= twoTo high := Nat.pow_le_pow_right (by decide) le
  exact grows (by decide)

theorem representable_quarters (small : n < 2 ^ 53) : Representable (n * quarter) ∧ n * quarter < overflow := by
  have power (places : Nat) : twoTo places = 2 ^ places := rfl
  unfold quarter
  obtain ⟨places, placesEq⟩ : exists places, 1072 = places := ⟨_, rfl⟩
  rw [placesEq, power]
  exact ⟨representable_mul_pow small.le places, lt_overflow small (by omega)⟩

theorem nearest_between (smallLow : low < 2 ^ 53) (smallHigh : high < 2 ^ 53) (least : (low * quarter : Nat) <= y)
    (most : y <= (high * quarter : Nat)) :
    nearest y < overflow ∧ low * quarter <= nearest y ∧ nearest y <= high * quarter := by
  obtain ⟨lowRepresentable, _⟩ := representable_quarters smallLow
  obtain ⟨highRepresentable, below⟩ := representable_quarters smallHigh
  have nonneg : 0 <= y := le_trans (Nat.cast_nonneg _) least
  have first := le_nearest lowRepresentable least
  have second := nearest_le highRepresentable nonneg most
  exact ⟨by omega, first, second⟩

theorem floorUnits_positive (least : n * one <= units) (most : units < (n + 1) * one) :
    floorUnits false units = n := by
  have positive : 0 < one := Nat.cast_pos.1 one_pos
  simp only [floorUnits, Bool.false_eq_true, if_false]
  rw [← Int.natCast_div, Nat.div_eq_of_lt_le least most]

theorem floorUnits_negative (least : n * one < units + one) (most : units <= n * one) :
    floorUnits true units = -n := by
  have positive : (0 : Int) < one := by exact_mod_cast Nat.cast_pos.1 one_pos
  have least' : (n : Int) * one < units + one := by exact_mod_cast least
  have most' : (units : Int) <= n * one := by exact_mod_cast most
  simp only [floorUnits, if_true]
  refine le_antisymm ?_ ?_
  next =>
    have below : (-(units : Int)) / one < -n + 1 := by
      rw [Int.ediv_lt_iff_lt_mul positive]
      linarith
    omega
  next =>
    rw [Int.le_ediv_iff_mul_le positive]
    linarith

end Quarters

section Scaled

variable {x : Float} {negative : Bool} {units n : Nat}

theorem roundAnswer?_eq {rounded sum : Nat} {total steps : Int}
    (scaled : exactly (x * answerScale) = .finite negative rounded)
    (small : rounded < 2 ^ 53 * one) (totalEq : signed negative rounded + (2 * quarter : Nat) = total)
    (some : total ≠ 0)
    (added : nearest total.natAbs = sum) (below : sum < overflow)
    (floored : floorUnits (decide (total < 0)) sum = steps) :
    roundAnswer? x = .some (ofInt steps / answerScale) := by
  subst totalEq added
  have order := le_iff exactly_exactFrom (exactly_abs scaled)
  have plus := (exactly_add scaled exactly_half some).trans (nearestExact_finite below _)
  unfold roundAnswer?
  dsimp only
  rw [if_neg (by rw [order]; omega), floor?, plus]
  dsimp only
  exact congrArg (fun steps => Option.some (ofInt steps / answerScale)) floored

theorem roundAnswer?_positive {rounded sum : Nat} (scaled : exactly (x * answerScale) = .finite false rounded)
    (small : rounded < 2 ^ 53 * one) (added : nearest (rounded + 2 * quarter : Nat) = sum) (below : sum < overflow)
    (least : n * one <= sum) (most : sum < (n + 1) * one) : roundAnswer? x = .some (ofInt n / answerScale) := by
  have positive := quarter_pos
  have total : signed false rounded + (2 * quarter : Nat) = (rounded + 2 * quarter : Nat) := by
    simp only [signed, Bool.false_eq_true, if_false]
    omega
  refine roundAnswer?_eq scaled small total (by omega) (by rw [Int.natAbs_natCast]; exact added) below ?_
  rw [decide_eq_false (by omega)]
  exact floorUnits_positive least most

theorem roundAnswer?_negative {rounded sum : Nat} (scaled : exactly (x * answerScale) = .finite true rounded)
    (small : rounded < 2 ^ 53 * one) (room : 2 * quarter < rounded)
    (added : nearest (rounded - 2 * quarter : Nat) = sum)
    (below : sum < overflow) (least : n * one < sum + one) (most : sum <= n * one) :
    roundAnswer? x = .some (ofInt (-n) / answerScale) := by
  have total : signed true rounded + (2 * quarter : Nat) = -((rounded - 2 * quarter : Nat) : Int) := by
    simp only [signed, if_true]
    omega
  have same : nearest (-((rounded - 2 * quarter : Nat) : Int)).natAbs = sum := by
    rw [Int.natAbs_neg, Int.natAbs_natCast]
    exact added
  refine roundAnswer?_eq scaled small total (by omega) same below ?_
  rw [decide_eq_true (by omega)]
  exact floorUnits_negative least most

theorem roundAnswer?_near {rounded : Nat} (scaled : exactly (x * answerScale) = .finite negative rounded)
    (some : 0 < n) (small : n < 2 ^ 50) (least : (4 * n - 1) * quarter <= rounded)
    (most : rounded <= (4 * n + 1) * quarter) :
    roundAnswer? x = .some (ofInt (signed negative n) / answerScale) := by
  -- All is said by the number of quarters in so many steps.
  obtain ⟨whole, wholeEq⟩ : exists whole, 4 * n * quarter = whole := ⟨_, rfl⟩
  have positive := quarter_pos
  have room : 4 * quarter <= whole := by
    rw [← wholeEq]
    exact Nat.mul_le_mul_right _ (by omega)
  have below {quarters : Nat} : (4 * n - quarters) * quarter = whole - quarters * quarter := by
    rw [Nat.sub_mul, wholeEq]
  have above {quarters : Nat} : (4 * n + quarters) * quarter = whole + quarters * quarter := by
    rw [Nat.add_mul, wholeEq]
  have unit := one_quarters
  have units : n * one = whole := by
    rw [one_quarters, ← wholeEq]
    ring
  have next : (n + 1) * one = whole + 4 * quarter := by
    rw [Nat.add_mul, units, Nat.one_mul, one_quarters]
  have limit : whole + quarter < 2 ^ 53 * one := by
    rw [one_quarters, ← wholeEq, ← Nat.succ_mul, ← Nat.mul_assoc]
    exact Nat.mul_lt_mul_of_pos_right (by omega) positive
  rw [below] at least
  rw [above] at most
  cases negative
  next =>
    obtain ⟨fits, sumLeast, sumMost⟩ := @nearest_between (rounded + 2 * quarter : Nat) (4 * n + 1) (4 * n + 3)
      (by omega) (by omega) (by rw [above, Nat.cast_le]; omega) (by rw [above, Nat.cast_le]; omega)
    rw [above] at sumLeast sumMost
    exact roundAnswer?_positive scaled (by omega) rfl fits (by rw [units]; omega) (by rw [next]; omega)
  next =>
    obtain ⟨fits, sumLeast, sumMost⟩ := @nearest_between (rounded - 2 * quarter : Nat) (4 * n - 3) (4 * n - 1)
      (by omega) (by omega) (by rw [below, Nat.cast_le]; omega) (by rw [below, Nat.cast_le]; omega)
    rw [below] at sumLeast sumMost
    exact roundAnswer?_negative scaled (by omega) (by omega) rfl fits (by rw [units]; omega) (by rw [units]; omega)

end Scaled

section Quotients

variable {x : Float} {negative : Bool} {steps : Int} {n units : Nat}

def stepped (n : Nat) : ℚ :=
  n / 1000000 * one

theorem stepped_nonneg (n : Nat) : 0 <= stepped n :=
  mul_nonneg (by positivity) one_pos.le

theorem stepped_quarters (n : Nat) : stepped n * 1000000 = (4 * n * quarter : Nat) := by
  rw [stepped, one_quarters]
  push_cast
  ring

theorem stepped_le (n : Nat) : stepped n <= (n * one : Nat) := by
  have nonneg : (0 : ℚ) <= n * one := mul_nonneg (Nat.cast_nonneg n) one_pos.le
  have parts : stepped n = n * one / 1000000 := by
    rw [stepped]
    ring
  rw [parts, Nat.cast_mul]
  exact div_le_self nonneg (by norm_num)

theorem exactly_steps (small : steps.natAbs < 2 ^ 53) :
    exactly (ofInt steps / answerScale) = .finite (decide (steps < 0)) (nearest (stepped steps.natAbs)) := by
  have quotient := exactly_quotient (exactly_ofInt small)
  have value : ((steps.natAbs * one : Nat) : ℚ) / 1000000 = stepped steps.natAbs := by
    rw [stepped, Nat.cast_mul]
    ring
  obtain ⟨representable, below⟩ := representable_integer small
  have fits := (nearest_le representable (stepped_nonneg _) (stepped_le steps.natAbs)).trans_lt below
  rw [quotient, value, nearestExact_finite fits]

theorem stepped_large (positive : 0 < n) : 2 ^ 52 <= stepped n := by
  have enough : 2 ^ 52 * 1000000 <= n * one :=
    le_trans (le_trans (by norm_num) one_large) (Nat.le_mul_of_pos_left _ positive)
  have cast : (2 : ℚ) ^ 52 * 1000000 <= n * one := by exact_mod_cast enough
  rw [stepped, div_mul_eq_mul_div, le_div_iff₀ (by norm_num)]
  exact cast

-- The quotient is so near to the number of steps that scaling it leads back.
theorem quotient_near (positive : 0 < n) (small : n < 2 ^ 50) :
    (4 * n - 1) * quarter <= nearest (stepped n) * 1000000 ∧
      nearest (stepped n) * 1000000 <= (4 * n + 1) * quarter := by
  have error := abs_le.1 (nearest_error (stepped_large positive))
  have scaled := stepped_quarters n
  have room : (4 * n * quarter : Nat) / 2 ^ 53 <= (quarter : ℚ) := by
    rw [div_le_iff₀ (by positivity)]
    have cast : (4 * n * quarter : Nat) <= quarter * 2 ^ 53 := by
      rw [Nat.mul_comm quarter]
      exact Nat.mul_le_mul_right _ (by omega)
    exact_mod_cast cast
  constructor
  next =>
    have cast : ((4 * n * quarter : Nat) : ℚ) <= nearest (stepped n) * 1000000 + quarter := by linarith
    have whole : 4 * n * quarter <= nearest (stepped n) * 1000000 + quarter := by exact_mod_cast cast
    rw [Nat.sub_mul]
    omega
  next =>
    have cast : (nearest (stepped n) : ℚ) * 1000000 <= (4 * n * quarter : Nat) + quarter := by linarith
    have whole : nearest (stepped n) * 1000000 <= 4 * n * quarter + quarter := by exact_mod_cast cast
    rw [Nat.add_mul]
    omega

theorem signed_natAbs (steps : Int) : signed (decide (steps < 0)) steps.natAbs = steps := by
  by_cases negative : steps < 0
  next =>
    rw [decide_eq_true negative]
    simp only [signed, if_true]
    omega
  next =>
    rw [decide_eq_false negative]
    simp only [signed, Bool.false_eq_true, if_false]
    omega

theorem roundAnswer?_steps (some : steps ≠ 0) (small : steps.natAbs < 2 ^ 50) :
    roundAnswer? (ofInt steps / answerScale) = .some (ofInt steps / answerScale) := by
  have present : 0 < steps.natAbs := by omega
  have near := quotient_near present small
  obtain ⟨below, least, most⟩ := @nearest_between (nearest (stepped steps.natAbs) * 1000000) (4 * steps.natAbs - 1)
    (4 * steps.natAbs + 1) (by omega) (by omega) (by exact_mod_cast near.1) (by exact_mod_cast near.2)
  have scaled := (exactly_scaled (exactly_steps (by omega))).trans (nearestExact_finite below _)
  have rounds := roundAnswer?_near scaled present small least most
  rwa [signed_natAbs] at rounds

end Quotients

section Integers

variable {x : Float} {negative : Bool} {n : Nat}

theorem representable_halves (small : n < 2 ^ 53) :
    Representable (n * (2 * quarter)) ∧ n * (2 * quarter) < overflow := by
  have power (places : Nat) : 2 * twoTo places = 2 ^ (places + 1) := (Nat.pow_succ' ).symm
  unfold quarter
  obtain ⟨places, placesEq⟩ : exists places, 1072 = places := ⟨_, rfl⟩
  rw [placesEq, power]
  exact ⟨representable_mul_pow small.le _, lt_overflow small (by omega)⟩

theorem nearest_tie {y : ℚ} (even : n % 2 = 0) (low : 2 ^ 52 * one <= y) (high : y < 2 ^ 53 * one)
    (tie : y = (n + 1 / 2) * one ∨ y = (n - 1 / 2) * one) : nearest y = n * one := by
  obtain ⟨places, unit⟩ : exists places : Nat, (one : ℚ) = 2 ^ places := ⟨1074, cast_one.trans (zpow_natCast 2 1074)⟩
  have natural : one = 2 ^ places := by exact_mod_cast unit
  rw [unit] at low high tie
  rw [nearest_tie_at even low high tie, natural]

theorem nearest_half_up (even : n % 2 = 0) (small : n < 2 ^ 53) :
    n * one <= nearest (n * one + 2 * quarter : Nat) ∧ nearest (n * one + 2 * quarter : Nat) < (n + 1) * one ∧
      nearest (n * one + 2 * quarter : Nat) < overflow := by
  have positive := quarter_pos
  have unit := one_quarters
  rw [Nat.add_mul, Nat.one_mul]
  by_cases large : 2 ^ 52 <= n
  next =>
    have low : 2 ^ 52 * one <= n * one := Nat.mul_le_mul_right _ large
    have high : (n + 1) * one <= 2 ^ 53 * one := Nat.mul_le_mul_right _ small
    rw [Nat.add_mul, Nat.one_mul] at high
    have value : ((n * one + 2 * quarter : Nat) : ℚ) = (n + 1 / 2) * one := by
      rw [unit]
      push_cast
      ring
    have chosen := nearest_tie even (by exact_mod_cast low.trans (Nat.le_add_right _ (2 * quarter)))
      (by exact_mod_cast (by omega : n * one + 2 * quarter < 2 ^ 53 * one)) (.inl value)
    have below := (representable_integer small).2
    rw [chosen]
    omega
  next =>
    have parts : n * one + 2 * quarter = (2 * n + 1) * (2 * quarter) := by
      rw [unit]
      ring
    have half := @representable_halves (2 * n + 1) (by omega)
    rw [← parts] at half
    rw [nearest_natCast half.1]
    omega

theorem nearest_half_down (even : n % 2 = 0) (small : n < 2 ^ 53) (some : 0 < n) :
    n * one < nearest (n * one - 2 * quarter : Nat) + one ∧ nearest (n * one - 2 * quarter : Nat) <= n * one ∧
      nearest (n * one - 2 * quarter : Nat) < overflow := by
  have positive := quarter_pos
  have unit := one_quarters
  have room : one <= n * one := Nat.le_mul_of_pos_left _ some
  by_cases large : 2 ^ 52 < n
  next =>
    have low : (2 ^ 52 + 1) * one <= n * one := Nat.mul_le_mul_right _ large
    have high : n * one < 2 ^ 53 * one := Nat.mul_lt_mul_of_pos_right small (by omega)
    rw [Nat.add_mul, Nat.one_mul] at low
    have value : ((n * one - 2 * quarter : Nat) : ℚ) = (n - 1 / 2) * one := by
      rw [Nat.cast_sub (by omega), unit]
      push_cast
      ring
    have chosen := nearest_tie even (by exact_mod_cast (by omega : 2 ^ 52 * one <= n * one - 2 * quarter))
      (by exact_mod_cast (by omega : n * one - 2 * quarter < 2 ^ 53 * one)) (.inr value)
    have below := (representable_integer small).2
    rw [chosen]
    omega
  next =>
    have parts : n * one - 2 * quarter = (2 * n - 1) * (2 * quarter) := by
      rw [unit, Nat.sub_mul]
      have double : n * (4 * quarter) = 2 * n * (2 * quarter) := by ring
      omega
    have half := @representable_halves (2 * n - 1) (by omega)
    rw [← parts] at half
    rw [nearest_natCast half.1]
    omega

theorem roundAnswer?_large {units : Nat} (same : exactly x = .finite negative units)
    (large : 2 ^ 53 * one <= nearest (units * 1000000)) : roundAnswer? x = .some x := by
  have product := exactly_scaled same
  have order : exactFrom <= (x * answerScale).abs := by
    rw [nearestExact] at product
    split at product
    next => exact (le_iff exactly_exactFrom (exactly_abs product)).2 large
    next => exact le_infinite exactly_exactFrom (exactly_abs_infinite product)
  unfold roundAnswer?
  dsimp only
  rw [if_pos order]

theorem roundAnswer?_integer (same : exactly x = .finite negative (n * one)) (sign : negative = true -> 0 < n) :
    roundAnswer? x = .some x := by
  have product := exactly_scaled same
  have value : ((n * one : Nat) : ℚ) * 1000000 = (n * 1000000 * one : Nat) := by
    push_cast
    ring
  by_cases large : 2 ^ 53 <= n * 1000000
  next =>
    have leading : Representable (2 ^ 53 * one) := (exactly_units exactly_exactFrom).1
    have least : 2 ^ 53 * one <= nearest (n * 1000000 * one : Nat) :=
      le_nearest leading (by exact_mod_cast Nat.mul_le_mul_right one large)
    rw [← value] at least
    exact roundAnswer?_large same least
  next =>
    rw [value] at product
    have small : n * 1000000 < 2 ^ 53 := by omega
    obtain ⟨representable, below⟩ := representable_integer small
    have scaled := product.trans (nearestExact_natCast representable below negative)
    have even : n * 1000000 % 2 = 0 := by omega
    have limit : n * 1000000 * one < 2 ^ 53 * one := Nat.mul_lt_mul_of_pos_right small (Nat.cast_pos.1 one_pos)
    -- The quotient of the steps is the integer again.
    have back {steps : Int} (natAbs : steps.natAbs = n * 1000000) (negativeEq : decide (steps < 0) = negative) :
        ofInt steps / answerScale = x := by
      have quotient := exactly_quotient (exactly_ofInt (natAbs ▸ small))
      have exact : ((n * 1000000 * one : Nat) : ℚ) / 1000000 = (n * one : Nat) := by
        push_cast
        ring
      obtain ⟨own, fits⟩ := exactly_units same
      rw [natAbs, exact, nearestExact_natCast own fits, negativeEq] at quotient
      exact eq_of_exactly quotient same
    cases negative
    next =>
      obtain ⟨least, most, fits⟩ := nearest_half_up even small
      rw [roundAnswer?_positive scaled limit rfl fits least most, back (by omega) (decide_eq_false (by omega))]
    next =>
      have positive := quarter_pos
      have unit := one_quarters
      have some : 0 < n * 1000000 := by
        have nonzero := sign rfl
        omega
      have room : one <= n * 1000000 * one := Nat.le_mul_of_pos_left _ some
      obtain ⟨least, most, fits⟩ := nearest_half_down even small some
      rw [roundAnswer?_negative scaled limit (by omega) rfl fits least most,
        back (by omega) (decide_eq_true (by omega))]

end Integers

end SpokenArithmetic.Arithmetic
