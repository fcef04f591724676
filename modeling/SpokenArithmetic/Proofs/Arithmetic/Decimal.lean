import SpokenArithmetic.Arithmetic.Double
import SpokenArithmetic.Proofs.Arithmetic.Correct
import SpokenArithmetic.Proofs.Arithmetic.Digits

set_option autoImplicit false

namespace SpokenArithmetic.Arithmetic

open Number
open Float.Model (UnpackedFloat Format totalExponent)
open Float.Model.UnpackedFloat (ExtendedMantissa Sign)

section Scientific

variable {mantissa places : Nat} {exponent : Int}

theorem representable_integer (small : mantissa < 2 ^ 53) :
    Representable (mantissa * one) ∧ mantissa * one < overflow := by
  have unit (places : Nat) : twoTo places = 2 ^ places := rfl
  unfold one
  obtain ⟨places, placesEq⟩ : exists places, 1074 = places := ⟨_, rfl⟩
  rw [placesEq, unit]
  exact ⟨representable_mul_pow small.le places, lt_overflow small (by omega)⟩

theorem exactly_toFloat (small : mantissa < 2 ^ 53) :
    exactly mantissa.toUInt64.toFloat = .finite false (mantissa * one) := by
  obtain ⟨representable, below⟩ := representable_integer small
  have packed : mantissa.toUInt64.toFloat.toModel =
      Float.Model.pack (UnpackedFloat.normalize Format.binary64 (mantissa.toUInt64.toNat : Int) 0 .positive) := rfl
  have word : mantissa.toUInt64.toNat = mantissa := by
    rw [Nat.toUInt64_eq, UInt64.toNat_ofNat']
    omega
  rw [word] at packed
  apply exactly_of_sign representable below
  rw [packed]
  by_cases zero : mantissa = 0
  next =>
    rw [zero, Nat.zero_mul]
    rfl
  next =>
    have value : ((mantissa : Int).natAbs : ℚ) * 2 ^ ((0 : Int) + 1074) = (mantissa * one : Nat) := by
      rw [Nat.cast_mul, cast_one, Int.natAbs_natCast, zero_add]
    rw [normalize_finite (by omega), value, nearest_natCast representable, decide_eq_false (by omega)]

theorem exactly_powerOfTen (small : places <= 22) :
    exactly (getElem Float.exactlyRepresentablePowersOfTen places (by
      simp [Float.exactlyRepresentablePowersOfTen]; omega)) = .finite false (tenTo places * one) := by
  have all : forall places : Fin 23, exactly (getElem Float.exactlyRepresentablePowersOfTen places.val (by
      simp [Float.exactlyRepresentablePowersOfTen])) = .finite false (tenTo places.val * one) := by
    decide +kernel
  exact all ⟨places, by omega⟩

theorem cast_tenTo (places : Nat) : (tenTo places : ℚ) = 10 ^ places :=
  Nat.cast_pow 10 places

theorem exactly_short (bits : mantissa < 2 ^ 53) (small : places <= 22) (divided : Bool) :
    exactly (Float.ofScientific mantissa divided places) =
      nearestExact false (mantissa * 10 ^ (if divided then -(places : Int) else places) * one) := by
  have first := exactly_toFloat bits
  have second := exactly_powerOfTen small
  have power : (0 : ℚ) < 10 ^ places := by positivity
  have positive := one_pos
  have divisor : tenTo places * one ≠ 0 :=
    (Nat.mul_pos (Nat.pow_pos (by decide)) (Nat.cast_pos.1 one_pos)).ne'
  have product := exactly_mul first second
  have quotient := exactly_div first second divisor
  rw [Nat.cast_mul, Nat.cast_mul, cast_tenTo] at product quotient
  unfold Float.ofScientific
  rw [dif_pos ⟨bits, small⟩]
  generalize (one : ℚ) = unit at product quotient positive ⊢
  cases divided
  next =>
    have value : (mantissa : ℚ) * unit * (10 ^ places * unit) / unit = mantissa * 10 ^ (places : Int) * unit := by
      rw [zpow_natCast]
      field_simp
    rw [value] at product
    exact product
  next =>
    have value : (mantissa : ℚ) * unit / (10 ^ places * unit) * unit = mantissa * 10 ^ (-(places : Int)) * unit := by
      rw [zpow_neg, zpow_natCast]
      field_simp
    rw [value] at quotient
    exact quotient

theorem nearestExact_zero : nearestExact false 0 = .finite false 0 := by
  rw [nearestExact, nearest_zero, if_pos overflow_pos]

theorem mul_powerOfTen {positive : 0 < mantissa <<< 53} {powerPositive : 0 < 10 ^ places} :
    UnpackedFloat.mul Format.binary64 (.finite .positive (mantissa <<< 53) (-53) positive)
        (.finite .positive (10 ^ places) 0 powerPositive) =
      unpackedOf .positive (nearest (mantissa * 10 ^ (places : Int) * one)) := by
  have some : mantissa ≠ 0 := by
    rintro rfl
    simp at positive
  have fine : 52 <= (mantissa <<< 53 * 10 ^ places).log2 := by
    rw [Nat.le_log2 (Nat.mul_pos positive powerPositive).ne', Nat.shiftLeft_eq, Nat.mul_assoc]
    exact le_trans (by norm_num) (Nat.le_mul_of_pos_left _ (Nat.pos_of_ne_zero some) |>.trans'
      (Nat.le_mul_of_pos_right _ powerPositive))
  have value : ((mantissa <<< 53 : Nat) : ℚ) * (10 ^ places : Nat) * 2 ^ ((-53 : Int) + 0 + 1074) =
      mantissa * 10 ^ (places : Int) * one := by
    have power : (one : ℚ) = 2 ^ 53 * 2 ^ ((-53 : Int) + 0 + 1074) := by
      rw [← two_zpow_add, cast_one]
      congr 1
    rw [power, Nat.shiftLeft_eq, zpow_natCast]
    generalize (2 : ℚ) ^ ((-53 : Int) + 0 + 1074) = rest
    push_cast
    ring
  exact (mul_finite (.inl fine)).trans (congrArg (fun y => unpackedOf _ (nearest y)) value)

theorem div_powerOfTen {positive : 0 < mantissa} {powerPositive : 0 < 10 ^ places} :
    UnpackedFloat.div Format.binary64 (.finite .positive mantissa 0 positive)
        (.finite .positive (10 ^ places) 0 powerPositive) =
      unpackedOf .positive (nearest (mantissa * 10 ^ (-(places : Int)) * one)) := by
  have value : (mantissa : ℚ) / (10 ^ places : Nat) * 2 ^ ((0 : Int) - 0 + 1074) =
      mantissa * 10 ^ (-(places : Int)) * one := by
    rw [cast_one, sub_zero, zero_add, zpow_neg, zpow_natCast, Nat.cast_pow, Nat.cast_ofNat, div_eq_mul_inv]
  rw [div_finite, value]
  rfl

theorem exactly_long (low : -((2 : Int) ^ 11 + mantissa.log2) <= exponent) (high : exponent <= 2 ^ 11) :
    exactly (Float.ofModel (Float.Model.ofScientific mantissa exponent)) =
      nearestExact false (mantissa * 10 ^ exponent * one) := by
  have power : (0 : ℚ) < 10 ^ exponent := zpow_pos (by norm_num) exponent
  apply exactly_of_packed (mul_nonneg (by positivity) one_pos.le)
  have packed : (Float.ofModel (Float.Model.ofScientific mantissa exponent)).toModel =
      Float.Model.pack (UnpackedFloat.ofScientific Format.binary64 mantissa exponent) := rfl
  rw [packed]
  congr 1
  unfold UnpackedFloat.ofScientific
  have limit : ((2 : Int) ^ Format.binary64.exponentBits) = 2 ^ 11 := rfl
  by_cases zero : mantissa = 0
  next =>
    subst zero
    rw [dif_pos rfl, Nat.cast_zero, zero_mul, zero_mul, nearest_zero]
    rfl
  rw [dif_neg zero, limit, if_neg (not_lt.2 high), if_neg (not_lt.2 low)]
  by_cases up : 0 <= exponent
  next =>
    rw [if_pos up]
    obtain ⟨places, rfl⟩ := Int.eq_ofNat_of_zero_le up
    exact mul_powerOfTen
  next =>
    rw [if_neg up]
    have opposite : exponent = -((-exponent).toNat : Int) := by omega
    have quotient := @div_powerOfTen mantissa (-exponent).toNat (Nat.pos_of_ne_zero zero) (by positivity)
    rw [← opposite] at quotient
    exact quotient

theorem exactly_ofScientific (low : -((2 : Int) ^ 11 + mantissa.log2) <= exponent) (high : exponent <= 2 ^ 11) :
    exactly (Float.ofScientific mantissa (exponent < 0) exponent.natAbs) =
      nearestExact false (mantissa * 10 ^ exponent * one) := by
  have written : (if decide (exponent < 0) = true then -(exponent.natAbs : Int) else exponent.natAbs) = exponent := by
    split
    next negative =>
      have below := of_decide_eq_true negative
      omega
    next positive =>
      have above := of_decide_eq_false (Bool.eq_false_of_not_eq_true positive)
      omega
  by_cases short : mantissa < 2 ^ 53 ∧ exponent.natAbs <= 22
  next =>
    have result := exactly_short short.1 short.2 (decide (exponent < 0))
    rwa [written] at result
  next =>
    have unfolded : Float.ofScientific mantissa (exponent < 0) exponent.natAbs =
        Float.ofModel (Float.Model.ofScientific mantissa exponent) := by
      unfold Float.ofScientific
      rw [dif_neg short]
      have same : (if decide (exponent < 0) = true then Int.negOfNat exponent.natAbs
          else Int.ofNat exponent.natAbs) = exponent := by
        rw [Int.negOfNat_eq]
        exact written
      dsimp only
      rw [same]
    rw [unfolded]
    exact exactly_long low high

theorem exactly_ofNat (mantissa : Nat) : exactly (Float.ofNat mantissa) = nearestExact false (mantissa * one) := by
  have result := @exactly_ofScientific mantissa 0 (by omega) (by decide)
  rwa [zpow_zero, mul_one] at result

theorem exactly_ofInt {value : Int} (small : value.natAbs < 2 ^ 53) :
    exactly (ofInt value) = .finite (decide (value < 0)) (value.natAbs * one) := by
  have natural {n : Nat} (small : n < 2 ^ 53) : exactly (Float.ofNat n) = .finite false (n * one) := by
    obtain ⟨representable, below⟩ := representable_integer small
    have result := exactly_ofNat n
    rwa [← Nat.cast_mul, nearestExact_natCast representable below] at result
  cases value with
  | ofNat n => exact natural small
  | negSucc n =>
    have successor : n + 1 < 2 ^ 53 := small
    rw [decide_eq_true (Int.negSucc_lt_zero n)]
    exact exactly_neg (natural successor)

end Scientific

section Read

variable {mantissa : Nat} {exponent : Int}

theorem nearest_small {y : ℚ} (nonneg : 0 <= y) (small : y < 1 / 2) : nearest y = 0 := by
  have none : placesOf y = 0 := by
    rw [placesOf, Nat.floor_eq_zero.2 (by linarith)]
    rfl
  have zero : halfEven y = 0 := halfEven_of_near (by simpa using small) (by push_cast; linarith) nonneg
  rw [nearest, none, pow_zero, div_one, zero, Nat.zero_mul]

theorem nearestExact_large {y : ℚ} (large : overflow <= y) : nearestExact false y = .infinite false := by
  have leading : Representable overflow := by
    have power := representable_mul_pow (show 1 <= 2 ^ 53 by decide) 2098
    rwa [Nat.one_mul] at power
  rw [nearestExact, if_neg (not_lt.2 (le_nearest leading large))]

theorem cast_overflow : (overflow : ℚ) = 2 ^ (1024 : Int) * one := by
  rw [overflow, Nat.cast_pow, cast_one, ← zpow_add₀ (by norm_num)]
  exact (zpow_natCast 2 2098).symm

theorem two_zpow_le {exponent bits : Int} (nonneg : 0 <= exponent) (le : bits <= 3 * exponent) :
    (2 : ℚ) ^ bits <= 10 ^ exponent := by
  calc
    (2 : ℚ) ^ bits <= 2 ^ (3 * exponent) := zpow_le_zpow_right₀ (by norm_num) le
    _ = 8 ^ exponent := by
      rw [zpow_mul]
      norm_num
    _ <= 10 ^ exponent := zpow_le_zpow_left₀ nonneg (by norm_num) (by norm_num)

theorem length_toDigits_bounds (positive : 0 < mantissa) :
    (10 : ℚ) ^ (((toDigits mantissa).length : Int) - 1) <= mantissa ∧
      (mantissa : ℚ) < 10 ^ ((toDigits mantissa).length : Int) := by
  have low : (10 : ℚ) ^ (toDigits mantissa).length <= 10 * mantissa := by exact_mod_cast pow_length_le positive
  have high : (mantissa : ℚ) < 10 ^ (toDigits mantissa).length := by exact_mod_cast lt_pow_length mantissa
  rw [zpow_sub_one₀ (by norm_num), zpow_natCast]
  exact ⟨by linarith, high⟩

theorem length_toDigits_log2 (positive : 0 < mantissa) : (toDigits mantissa).length <= mantissa.log2 + 1 := by
  obtain ⟨places, length⟩ := Nat.exists_eq_add_one.2 (length_toDigits_pos mantissa)
  have low := pow_length_le positive
  rw [length, Nat.pow_succ'] at low
  have power : 2 ^ places <= mantissa :=
    (Nat.pow_le_pow_left (by decide) places).trans (Nat.le_of_mul_le_mul_left low (by decide))
  have bits := (Nat.le_log2 (by omega)).2 power
  omega

section Limits

variable {digits : Int}

theorem large_of_digits (low : (10 : ℚ) ^ (digits - 1) <= mantissa) (huge : 400 < digits + exponent) :
    (overflow : ℚ) <= mantissa * 10 ^ exponent * one := by
  have power : (0 : ℚ) < 10 ^ exponent := zpow_pos (by norm_num) exponent
  have large : (2 : ℚ) ^ (1024 : Int) <= mantissa * 10 ^ exponent := by
    calc
      (2 : ℚ) ^ (1024 : Int) <= 10 ^ (digits - 1 + exponent) := two_zpow_le (by omega) (by omega)
      _ = 10 ^ (digits - 1) * 10 ^ exponent := zpow_add₀ (by norm_num) _ _
      _ <= mantissa * 10 ^ exponent := mul_le_mul_of_nonneg_right low power.le
  rw [cast_overflow]
  exact mul_le_mul_of_nonneg_right large one_pos.le

theorem small_of_digits (high : (mantissa : ℚ) < 10 ^ digits) (tiny : digits + exponent < -400) :
    mantissa * 10 ^ exponent * one < (1 / 2 : ℚ) := by
  have power : (0 : ℚ) < 10 ^ exponent := zpow_pos (by norm_num) exponent
  have half : (2 : ℚ) ^ (1075 : Int) = 2 * one := by
    rw [cast_one, ← zpow_one_add₀ (by norm_num)]
    norm_num
  calc
    (mantissa : ℚ) * 10 ^ exponent * one < 10 ^ digits * 10 ^ exponent * one :=
      mul_lt_mul_of_pos_right (mul_lt_mul_of_pos_right high power) one_pos
    _ = (10 ^ (-(digits + exponent)))⁻¹ * one := by
      rw [← zpow_add₀ (by norm_num), zpow_neg, inv_inv]
    _ <= (2 ^ (1075 : Int))⁻¹ * one := by
      refine mul_le_mul_of_nonneg_right ?_ one_pos.le
      exact inv_anti₀ (two_zpow_pos _) (two_zpow_le (by omega) (by omega))
    _ = 1 / 2 := by
      have unit := one_pos
      rw [half]
      field_simp

end Limits

theorem exactly_ofDecimal (mantissa : Nat) (exponent : Int) :
    exactly (ofDecimal mantissa exponent) = nearestExact false (mantissa * 10 ^ exponent * one) := by
  unfold ofDecimal
  have none : exactly (0.0 : Float) = .finite false 0 := by decide
  have infinite : exactly infinity = .infinite false := by decide
  by_cases zero : mantissa = 0
  next => rw [if_pos zero, zero, none, Nat.cast_zero, zero_mul, zero_mul, nearestExact_zero]
  next =>
    have positive := Nat.pos_of_ne_zero zero
    obtain ⟨low, high⟩ := length_toDigits_bounds positive
    have bits := length_toDigits_log2 positive
    have power : (0 : ℚ) < 10 ^ exponent := zpow_pos (by norm_num) exponent
    have some := length_toDigits_pos mantissa
    unfold toDigits at low high bits some
    rw [if_neg zero]
    dsimp only
    generalize (Nat.toDigits 10 mantissa).length = digits at *
    split
    next huge => rw [infinite, nearestExact_large (large_of_digits low huge)]
    next notHuge =>
      split
      next tiny =>
        have value := nearest_small (mul_nonneg (by positivity) one_pos.le) (small_of_digits high tiny)
        rw [none, nearestExact, value, if_pos overflow_pos]
      next notTiny => exact exactly_ofScientific (by omega) (by omega)

theorem isFinite_ofDecimal {most : Nat} (small : most < 2 ^ 53) (below : (mantissa : ℚ) * 10 ^ exponent <= most) :
    isFinite (ofDecimal mantissa exponent) = true := by
  obtain ⟨representable, limit⟩ := representable_integer small
  have power : (0 : ℚ) <= 10 ^ exponent := zpow_nonneg (by norm_num) exponent
  have nonneg : (0 : ℚ) <= mantissa * 10 ^ exponent * one :=
    mul_nonneg (mul_nonneg (Nat.cast_nonneg _) power) one_pos.le
  have bound : (mantissa : ℚ) * 10 ^ exponent * one <= (most * one : Nat) := by
    rw [Nat.cast_mul]
    exact mul_le_mul_of_nonneg_right below one_pos.le
  have finite := nearestExact_finite ((nearest_le representable nonneg bound).trans_lt limit) false
  rw [isFinite, exactly_ofDecimal, finite]

end Read

end SpokenArithmetic.Arithmetic
