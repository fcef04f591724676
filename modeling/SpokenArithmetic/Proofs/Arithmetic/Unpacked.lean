import SpokenArithmetic.Proofs.Arithmetic.Nearest

set_option autoImplicit false

/-!
Rounding an unpacked value gives the nearest double, and packing it gives a double whose exact value it
is. Every double is the packed form of its exact value.
-/

namespace SpokenArithmetic.Arithmetic

open Number
open Float.Model (UnpackedFloat Format totalExponent)
open Float.Model.UnpackedFloat (ExtendedMantissa Sign)

section Extended

variable {extended : ExtendedMantissa} {y : ℚ} {mantissa : Nat}

/-- What is known of a quantity by its whole part and the two bits behind it. -/
structure Holds (extended : ExtendedMantissa) (y : ℚ) : Prop where
  low : extended.mantissa <= y
  high : y < extended.mantissa + 1
  round : extended.roundBit = true ↔ extended.mantissa + 1 / 2 <= y
  sticky : extended.stickyBit = true ↔ y ≠ extended.mantissa ∧ y ≠ extended.mantissa + 1 / 2

theorem holds_exact (mantissa : Nat) : Holds (.ofMantissaAndAccuracy mantissa .exact) mantissa where
  low := le_rfl
  high := by simp [ExtendedMantissa.ofMantissaAndAccuracy]
  round := by simp [ExtendedMantissa.ofMantissaAndAccuracy]
  sticky := by simp [ExtendedMantissa.ofMantissaAndAccuracy]

theorem Holds.shiftRightOne (holds : Holds extended y) : Holds extended.shiftRightOne (y / 2) := by
  obtain ⟨mantissa, roundBit, stickyBit⟩ := extended
  obtain ⟨low, high, round, sticky⟩ := holds
  dsimp only at low high round sticky
  obtain ⟨half, rest, parts, bit⟩ : exists half rest, mantissa = 2 * half + rest ∧ rest < 2 :=
    ⟨mantissa / 2, mantissa % 2, by omega, by omega⟩
  have quotient : mantissa / 2 = half := by omega
  have remainder : mantissa % 2 = rest := by omega
  have cast : (mantissa : ℚ) = 2 * half + rest := by
    rw [parts]
    push_cast
    rfl
  have cases : rest = 0 ∨ rest = 1 := by omega
  rw [cast] at low high round sticky
  constructor <;> simp only [ExtendedMantissa.shiftRightOne, quotient, remainder]
  case low =>
    rcases cases with rfl | rfl <;> push_cast at low <;> linarith
  case high =>
    rcases cases with rfl | rfl <;> push_cast at high <;> linarith
  case round =>
    rcases cases with rfl | rfl <;> push_cast at low high
    next => simp; linarith
    next => simp; linarith
  case sticky =>
    rw [Bool.or_eq_true, round, sticky]
    rcases cases with rfl | rfl <;> push_cast at low high ⊢
    next =>
      constructor
      next =>
        rintro (above | ⟨other, _⟩)
        next => exact ⟨fun same => by linarith, fun same => by linarith⟩
        next => exact ⟨fun same => other (by linarith), fun same => by linarith⟩
      next =>
        rintro ⟨other, _⟩
        by_cases above : 2 * (half : ℚ) + 0 + 1 / 2 <= y
        next => exact .inl above
        next => exact .inr ⟨fun same => other (by linarith), fun same => above (by linarith)⟩
    next =>
      constructor
      next =>
        rintro (above | ⟨other, _⟩)
        next => exact ⟨fun same => by linarith, fun same => by linarith⟩
        next => exact ⟨fun same => by linarith, fun same => other (by linarith)⟩
      next =>
        rintro ⟨_, other⟩
        by_cases above : 2 * (half : ℚ) + 1 + 1 / 2 <= y
        next => exact .inl above
        next => exact .inr ⟨fun same => other (by linarith), fun same => above (by linarith)⟩

theorem Holds.shiftRight (holds : Holds extended y) (places : Nat) :
    Holds (extended >>> places) (y / 2 ^ places) := by
  have repeated : extended >>> places = places.repeat ExtendedMantissa.shiftRightOne extended := rfl
  rw [repeated]
  induction places with
  | zero => simpa [Nat.repeat] using holds
  | succ places ih =>
    rw [Nat.repeat, pow_succ, ← div_div]
    exact (ih rfl).shiftRightOne

theorem Holds.isHalfEven (holds : Holds extended y) : IsHalfEven y extended.roundedMantissa := by
  obtain ⟨mantissa, roundBit, stickyBit⟩ := extended
  obtain ⟨low, high, round, sticky⟩ := holds
  dsimp only at low high round sticky
  unfold ExtendedMantissa.roundedMantissa ExtendedMantissa.accuracy UnpackedFloat.Accuracy.roundToNearestEven
  cases roundBit <;> cases stickyBit <;> simp only [Bool.false_eq_true, false_iff, true_iff] at round sticky <;>
    dsimp only
  next =>
    have same : y = mantissa := by
      by_contra other
      exact sticky ⟨other, fun half => round half.ge⟩
    rw [same]
    exact isHalfEven_natCast mantissa
  next => exact ⟨by linarith, by linarith, by rintro (same | same) <;> linarith⟩
  next =>
    have half : y = mantissa + 1 / 2 := by
      by_contra other
      exact sticky ⟨fun same => by linarith, other⟩
    rcases Nat.mod_two_eq_zero_or_one mantissa with even | odd
    next =>
      rw [even, Nat.add_zero]
      exact ⟨half.le, by linarith, fun _ => even⟩
    next =>
      rw [odd]
      exact ⟨by push_cast; linarith, by push_cast; linarith, fun _ => by omega⟩
  next =>
    have more : (mantissa : ℚ) + 1 / 2 < y := lt_of_le_of_ne round (Ne.symm sticky.2)
    exact ⟨by push_cast; linarith, by push_cast; linarith, by push_cast; rintro (same | same) <;> linarith⟩

theorem holds_fraction (numerator : Nat) {denominator : Nat} (positive : 0 < denominator) :
    Holds (.ofMantissaAndAccuracy (numerator / denominator)
      (UnpackedFloat.accuracyOfFraction (numerator % denominator) denominator)) (numerator / denominator) := by
  obtain ⟨part, parts, nonneg, small, zero, below, above⟩ := exists_fraction numerator positive
  rw [parts]
  unfold UnpackedFloat.accuracyOfFraction
  generalize numerator / denominator = whole
  split
  next none =>
    rw [zero.2 none, add_zero]
    exact holds_exact whole
  next some =>
    have present : part ≠ 0 := mt zero.1 some
    rcases lt_trichotomy (2 * (numerator % denominator)) denominator with less | same | more
    next =>
      have half := below.2 less
      rw [compare_lt_iff_lt.2 less]
      exact ⟨by simpa [ExtendedMantissa.ofMantissaAndAccuracy],
        by simpa [ExtendedMantissa.ofMantissaAndAccuracy],
        by simpa [ExtendedMantissa.ofMantissaAndAccuracy] using half,
        by simpa [ExtendedMantissa.ofMantissaAndAccuracy, present] using half.ne⟩
    next =>
      have half : part = 1 / 2 :=
        le_antisymm (not_lt.1 (mt above.1 same.not_gt)) (not_lt.1 (mt below.1 same.not_lt))
      rw [compare_eq_iff_eq.2 same]
      exact ⟨by simpa [ExtendedMantissa.ofMantissaAndAccuracy],
        by simpa [ExtendedMantissa.ofMantissaAndAccuracy],
        by simp [ExtendedMantissa.ofMantissaAndAccuracy, half],
        by simp [ExtendedMantissa.ofMantissaAndAccuracy, half]⟩
    next =>
      have half := above.2 more
      rw [compare_gt_iff_gt.2 more]
      exact ⟨by simpa [ExtendedMantissa.ofMantissaAndAccuracy],
        by simpa [ExtendedMantissa.ofMantissaAndAccuracy],
        by simpa [ExtendedMantissa.ofMantissaAndAccuracy] using half.le,
        by simpa [ExtendedMantissa.ofMantissaAndAccuracy, present] using half.ne'⟩

end Extended

section Rounded

variable {y : ℚ} {mantissa units : Nat} {exponent : Int} {accuracy : UnpackedFloat.Accuracy}

def ofParts (sign : Sign) (mantissa : Nat) (exponent : Int) : UnpackedFloat :=
  if none : mantissa = 0 then .zero sign else .finite sign mantissa exponent (Nat.pos_of_ne_zero none)

def unpackedOf (sign : Sign) (units : Nat) : UnpackedFloat :=
  ofParts sign (units / 2 ^ shiftOf units) (shiftOf units - 1074)

theorem two_zpow_pos (exponent : Int) : (0 : ℚ) < 2 ^ exponent :=
  zpow_pos (by norm_num) exponent

theorem placesOf_scaled (low : mantissa <= y) (high : y < mantissa + 1) (fine : mantissa = 0 -> exponent <= 0) :
    (placesOf (y * 2 ^ exponent) : Int) = max (mantissa.log2 - 52 + exponent) 0 := by
  have small (below : y * 2 ^ exponent < 1) : placesOf (y * 2 ^ exponent) = 0 := by
    rw [placesOf, Nat.floor_eq_zero.2 below]
    rfl
  by_cases zero : mantissa = 0
  next =>
    subst zero
    have le : (2 : ℚ) ^ exponent <= 1 := zpow_le_one_of_nonpos₀ (by norm_num) (fine rfl)
    have positive := two_zpow_pos exponent
    push_cast at low high
    rw [small (by nlinarith)]
    simp
    have none := fine rfl
    omega
  next =>
    have first : (2 : ℚ) ^ (mantissa.log2 : Int) <= y := by
      rw [zpow_natCast]
      exact le_trans (by exact_mod_cast Nat.log2_self_le zero) low
    have second : y < (2 : ℚ) ^ ((mantissa.log2 : Int) + 1) := by
      have next : mantissa + 1 <= 2 ^ (mantissa.log2 + 1) := Nat.lt_log2_self
      refine high.trans_le ?_
      exact_mod_cast next
    have scaledLow : (2 : ℚ) ^ (mantissa.log2 + exponent) <= y * 2 ^ exponent := by
      rw [zpow_add₀ (by norm_num)]
      exact mul_le_mul_of_nonneg_right first (two_zpow_pos exponent).le
    have scaledHigh : y * 2 ^ exponent < (2 : ℚ) ^ (mantissa.log2 + exponent + 1) := by
      have parts : (mantissa.log2 : Int) + exponent + 1 = mantissa.log2 + 1 + exponent := by omega
      rw [parts, zpow_add₀ (by norm_num)]
      exact mul_lt_mul_of_pos_right second (two_zpow_pos exponent)
    by_cases some : 0 <= (mantissa.log2 : Int) + exponent
    next =>
      obtain ⟨places, placesEq⟩ := Int.eq_ofNat_of_zero_le some
      rw [placesEq, zpow_natCast] at scaledLow
      rw [placesEq] at scaledHigh
      have leading := @log2_floor _ places scaledLow (by exact_mod_cast scaledHigh)
      rw [placesOf, shiftOf, leading]
      omega
    next =>
      have le : (2 : ℚ) ^ (mantissa.log2 + exponent + 1) <= 1 := zpow_le_one_of_nonpos₀ (by norm_num) (by omega)
      rw [small (scaledHigh.trans_le le)]
      omega

theorem targetExponent_eq (total : Int) :
    Format.binary64.targetExponent total = max (total - 53) (-1074) := rfl

theorem shiftRight_mantissa (extended : ExtendedMantissa) (places : Nat) :
    (extended >>> places).mantissa = extended.mantissa / 2 ^ places := by
  have repeated : extended >>> places = places.repeat ExtendedMantissa.shiftRightOne extended := rfl
  rw [repeated]
  induction places with
  | zero => simp [Nat.repeat]
  | succ places ih =>
    rw [Nat.repeat, ExtendedMantissa.shiftRightOne, ih rfl, Nat.div_div_eq_div_mul, Nat.pow_succ]

theorem targetExponent_total :
    Format.binary64.targetExponent (totalExponent mantissa exponent) =
      max ((mantissa.log2 : Int) - 52 + exponent) (-1074) := by
  rw [targetExponent_eq, totalExponent]
  omega

theorem mantissa_ofAccuracy : (ExtendedMantissa.ofMantissaAndAccuracy mantissa accuracy).mantissa = mantissa := by
  cases accuracy with
  | exact => rfl
  | inexact half => cases half <;> rfl

-- The second shift only concerns a mantissa that rounding has made one place longer.
theorem shift_rounded {leading places : Nat} (most : leading <= 2 ^ 53) (normal : 0 < places -> 2 ^ 52 <= leading)
    (sign : Sign) {shifted : ExtendedMantissa × Int}
    (same : UnpackedFloat.shiftToTargetExponent Format.binary64 leading (places - 1074) .exact = shifted) :
    ofParts sign shifted.1.mantissa shifted.2 = unpackedOf sign (leading * 2 ^ places) := by
  obtain ⟨shift, shiftEq⟩ : exists shift,
      (max ((leading.log2 : Int) - 52 + (places - 1074)) (-1074) - (places - 1074)).toNat = shift := ⟨_, rfl⟩
  have parts : shifted.1.mantissa = leading / 2 ^ shift ∧ shifted.2 = places - 1074 + shift := by
    rw [← same]
    unfold UnpackedFloat.shiftToTargetExponent UnpackedFloat.shiftToExponent
    rw [targetExponent_total]
    simp only [shiftEq, shiftRight_mantissa, mantissa_ofAccuracy, and_self]
  rw [parts.1, parts.2, unpackedOf]
  by_cases largest : leading = 2 ^ 53
  next =>
    have length : leading.log2 = 53 := by rw [largest, Nat.log2_two_pow]
    obtain rfl : shift = 1 := by omega
    have longer : leading * 2 ^ places = 2 ^ 52 * 2 ^ (places + 1) := by
      rw [largest, Nat.pow_succ 2 places]
      omega
    rw [longer, shiftOf_mul_pow le_rfl (by decide), Nat.mul_div_cancel _ (Nat.two_pow_pos _), largest]
    congr 1
    omega
  next =>
    have below : leading < 2 ^ 53 := by omega
    have length : leading.log2 <= 52 := by
      by_cases zero : leading = 0
      next => simp [zero]
      next => exact Nat.le_of_lt_succ ((Nat.log2_lt zero).2 below)
    obtain rfl : shift = 0 := by omega
    have own : shiftOf (leading * 2 ^ places) = places := by
      rcases Nat.eq_zero_or_pos places with rfl | some
      next => rw [Nat.pow_zero, Nat.mul_one, shiftOf_small below]
      next => exact shiftOf_mul_pow (normal some) below places
    rw [own, Nat.mul_div_cancel _ (Nat.two_pow_pos _), Nat.pow_zero, Nat.div_one]
    congr 1
    omega

theorem roundWithAccuracy_eq (holds : Holds (.ofMantissaAndAccuracy mantissa accuracy) y)
    (fine : 52 <= mantissa.log2 ∨ exponent <= -1074) (sign : Sign) :
    UnpackedFloat.roundWithAccuracy Format.binary64 sign mantissa exponent accuracy =
      unpackedOf sign (nearest (y * 2 ^ (exponent + 1074))) := by
  have low := holds.low
  have high := holds.high
  rw [mantissa_ofAccuracy] at low high
  have nonneg : 0 <= y := le_trans (Nat.cast_nonneg mantissa) low
  have scaledNonneg : 0 <= y * 2 ^ (exponent + 1074) := mul_nonneg nonneg (two_zpow_pos _).le
  have places := @placesOf_scaled y mantissa (exponent + 1074) low high (by
    rintro rfl
    simp at fine
    omega)
  obtain ⟨level, levelEq⟩ : exists level, placesOf (y * 2 ^ (exponent + 1074)) = level := ⟨_, rfl⟩
  rw [levelEq] at places
  have most := leading_le scaledNonneg
  have normal := le_leading scaledNonneg
  unfold UnpackedFloat.roundWithAccuracy
  have first : UnpackedFloat.shiftToTargetExponent Format.binary64 mantissa exponent accuracy =
      (ExtendedMantissa.ofMantissaAndAccuracy mantissa accuracy >>> (level - 1074 - exponent).toNat,
        (level : Int) - 1074) := by
    unfold UnpackedFloat.shiftToTargetExponent UnpackedFloat.shiftToExponent
    have target : Format.binary64.targetExponent (totalExponent mantissa exponent) = level - 1074 := by
      rw [targetExponent_total]
      omega
    rw [target]
    dsimp only
    congr 1
    omega
  rw [first]
  dsimp only
  obtain ⟨shift, shiftEq⟩ : exists shift : Nat, (level - 1074 - exponent).toNat = shift := ⟨_, rfl⟩
  have quotient : y / 2 ^ shift = y * 2 ^ (exponent + 1074) / 2 ^ level := by
    have total : exponent + 1074 = level - shift := by omega
    rw [total, zpow_sub₀ (by norm_num), zpow_natCast, zpow_natCast]
    field_simp
  have leading := (holds.shiftRight shift).isHalfEven.eq (by positivity)
  rw [quotient] at leading
  rw [shiftEq, leading, nearest, levelEq]
  rw [levelEq] at most normal
  exact shift_rounded most normal sign rfl

end Rounded

section Packed

variable {x y : Float} {negative : Bool} {units : Nat}

def overflow : Nat :=
  2 ^ 2098

theorem overflow_pos : 0 < overflow := by
  unfold overflow
  positivity

theorem overflow_le_iff : overflow <= units ↔ 2046 <= shiftOf units := by
  by_cases zero : units = 0
  next =>
    have positive := overflow_pos
    have shift : shiftOf 0 = 0 := rfl
    rw [zero, shift]
    omega
  next =>
    rw [overflow, ← Nat.le_log2 zero, shiftOf]
    omega

theorem lt_overflow {mantissa places : Nat} (bits : mantissa < 2 ^ 53) (small : places <= 2045) :
    mantissa * 2 ^ places < overflow := by
  obtain ⟨rest, total⟩ := Nat.exists_eq_add_of_le small
  have parts : 2098 = 53 + rest + places := by omega
  rw [overflow, parts, Nat.pow_add, Nat.pow_add]
  have first : mantissa < 2 ^ 53 * 2 ^ rest := bits.trans_le (Nat.le_mul_of_pos_right _ (Nat.two_pow_pos rest))
  exact Nat.mul_lt_mul_of_pos_right first (Nat.two_pow_pos places)

def modelSign (negative : Bool) : Sign :=
  if negative then .negative else .positive

def unpackedExact : Exact -> UnpackedFloat
  | .nan => .notANumber
  | .infinite negative => .infinity (modelSign negative)
  | .finite negative units => unpackedOf (modelSign negative) units

def ofFields (sign exponent fraction : Nat) : Exact :=
  if exponent = 2047 then
    if fraction = 0 then .infinite (sign == 1) else .nan
  else if exponent = 0 then .finite (sign == 1) fraction
  else .finite (sign == 1) ((2 ^ 52 + fraction) * 2 ^ (exponent - 1))

theorem exactly_fields (x : Float) :
    exactly x = ofFields (x.toBits.toNat / 2 ^ 63) (x.toBits.toNat / 2 ^ 52 % 2 ^ 11) (x.toBits.toNat % 2 ^ 52) := rfl

section Fields

variable {bits : BitVec Format.binary64.numBits}

theorem toNat_unpackSign : (UnpackedFloat.unpackSign bits).toNat = bits.toNat / 2 ^ 63 := by
  have word : bits.toNat < 2 ^ 64 := bits.isLt
  have last : (UnpackedFloat.unpackSign bits).toNat = (BitVec.extractLsb 63 63 bits).toNat := rfl
  rw [last]
  simp [Nat.shiftRight_eq_div_pow]
  omega

theorem toNat_unpackExponent : (UnpackedFloat.unpackExponent bits).toNat = bits.toNat / 2 ^ 52 % 2 ^ 11 := by
  simp [UnpackedFloat.unpackExponent, Nat.shiftRight_eq_div_pow]

theorem toNat_unpackMantissa : (UnpackedFloat.unpackMantissa bits).toNat = bits.toNat % 2 ^ 52 := by
  simp [UnpackedFloat.unpackMantissa]

theorem sign_unpackSign : Sign.ofBitVec (UnpackedFloat.unpackSign bits) = modelSign (bits.toNat / 2 ^ 63 == 1) := by
  have one : (UnpackedFloat.unpackSign bits).toNat < 2 := (UnpackedFloat.unpackSign bits).isLt
  have zero : UnpackedFloat.unpackSign bits = 0#1 ↔ (UnpackedFloat.unpackSign bits).toNat = 0 := by
    rw [← BitVec.toNat_inj]
    rfl
  unfold Sign.ofBitVec
  rw [← toNat_unpackSign]
  by_cases positive : (UnpackedFloat.unpackSign bits).toNat = 0
  next =>
    rw [if_pos (zero.2 positive), positive]
    rfl
  next =>
    have negative : (UnpackedFloat.unpackSign bits).toNat = 1 := by omega
    rw [if_neg (mt zero.1 positive), negative]
    rfl

theorem unpack_parts : UnpackedFloat.unpack Format.binary64 bits =
    if UnpackedFloat.unpackExponent bits = -1#11 then
      if UnpackedFloat.unpackMantissa bits = 0#52 then .infinity (Sign.ofBitVec (UnpackedFloat.unpackSign bits))
      else .notANumber
    else if UnpackedFloat.unpackExponent bits = 0#11 then
      ofParts (Sign.ofBitVec (UnpackedFloat.unpackSign bits)) (UnpackedFloat.unpackMantissa bits).toNat
        ((UnpackedFloat.unpackExponent bits).toNat - 1074)
    else
      ofParts (Sign.ofBitVec (UnpackedFloat.unpackSign bits)) (1#1 ++ UnpackedFloat.unpackMantissa bits).toNat
        ((UnpackedFloat.unpackExponent bits).toNat - 1075) := by
  have whole {sign : Sign} {mantissa : Nat} {exponent other : Int} (positive : 0 < mantissa)
      (same : exponent = other) : UnpackedFloat.finite sign mantissa exponent positive = ofParts sign mantissa other := by
    rw [ofParts, dif_neg positive.ne', same]
  unfold UnpackedFloat.unpack
  dsimp only
  by_cases last : UnpackedFloat.unpackExponent bits = -1#11
  next => rw [if_pos last, if_pos last]
  next =>
    rw [if_neg last, if_neg last]
    by_cases least : UnpackedFloat.unpackExponent bits = 0#11
    next =>
      rw [if_pos least, if_pos least]
      by_cases none : UnpackedFloat.unpackMantissa bits = 0#52
      next =>
        rw [dif_pos none, none]
        rfl
      next =>
        rw [dif_neg none]
        apply whole
        show ((UnpackedFloat.unpackExponent bits).toNat : Int) - (1023 + (52 : Nat)) + 1 = _
        omega
    next =>
      rw [if_neg least, if_neg least]
      exact whole _ rfl

theorem unpack_bits : UnpackedFloat.unpack Format.binary64 bits =
    unpackedExact (ofFields (bits.toNat / 2 ^ 63) (bits.toNat / 2 ^ 52 % 2 ^ 11) (bits.toNat % 2 ^ 52)) := by
  have least : (UnpackedFloat.unpackExponent bits = 0#11) ↔ bits.toNat / 2 ^ 52 % 2 ^ 11 = 0 := by
    rw [← toNat_unpackExponent, ← BitVec.toNat_inj]
    rfl
  have last : (UnpackedFloat.unpackExponent bits = -1#11) ↔ bits.toNat / 2 ^ 52 % 2 ^ 11 = 2047 := by
    rw [← toNat_unpackExponent, ← BitVec.toNat_inj]
    rfl
  have none : (UnpackedFloat.unpackMantissa bits = 0#52) ↔ bits.toNat % 2 ^ 52 = 0 := by
    rw [← toNat_unpackMantissa, ← BitVec.toNat_inj]
    rfl
  have leading : (1#1 ++ UnpackedFloat.unpackMantissa bits).toNat = 2 ^ 52 + bits.toNat % 2 ^ 52 := by
    have below : (UnpackedFloat.unpackMantissa bits).toNat < 2 ^ 52 := (UnpackedFloat.unpackMantissa bits).isLt
    rw [BitVec.toNat_append, ← Nat.shiftLeft_add_eq_or_of_lt below, toNat_unpackMantissa]
    simp [Nat.shiftLeft_eq]
  have below : bits.toNat % 2 ^ 52 < 2 ^ 52 := Nat.mod_lt _ (Nat.two_pow_pos 52)
  rw [unpack_parts, leading, sign_unpackSign, toNat_unpackMantissa, toNat_unpackExponent]
  simp only [least, last, none]
  generalize bits.toNat / 2 ^ 52 % 2 ^ 11 = exponent
  generalize bits.toNat % 2 ^ 52 = fraction at below
  unfold ofFields
  generalize (bits.toNat / 2 ^ 63 == 1) = negative
  by_cases infinite : exponent = 2047
  next =>
    rw [if_pos infinite, if_pos infinite]
    split <;> rfl
  next =>
    rw [if_neg infinite, if_neg infinite]
    split
    next zero =>
      rw [zero, unpackedExact, unpackedOf, shiftOf_small (show fraction < 2 ^ 53 by omega), Nat.pow_zero, Nat.div_one]
    next some =>
      have shift := @shiftOf_mul_pow (2 ^ 52 + fraction) (by omega) (by omega) (exponent - 1)
      rw [unpackedExact, unpackedOf, shift, Nat.mul_div_cancel _ (Nat.two_pow_pos _)]
      congr 1
      omega

end Fields

theorem unpack_eq (x : Float) : x.toModel.unpack = unpackedExact (exactly x) :=
  unpack_bits

theorem exactly_units (same : exactly x = .finite negative units) : Representable units ∧ units < overflow := by
  have below : x.toBits.toNat % 2 ^ 52 < 2 ^ 52 := Nat.mod_lt _ (Nat.two_pow_pos 52)
  have exponents : x.toBits.toNat / 2 ^ 52 % 2 ^ 11 < 2 ^ 11 := Nat.mod_lt _ (Nat.two_pow_pos 11)
  rw [exactly_fields] at same
  generalize x.toBits.toNat / 2 ^ 52 % 2 ^ 11 = exponent at same exponents
  unfold ofFields at same
  split at same
  next => split at same <;> cases same
  next finite =>
    split at same
    next =>
      obtain ⟨_, rfl⟩ := Exact.finite.inj same
      have small := @lt_overflow (x.toBits.toNat % 2 ^ 52) 0 (by omega) (by decide)
      exact ⟨representable_small (by omega), by rwa [Nat.pow_zero, Nat.mul_one] at small⟩
    next =>
      obtain ⟨_, rfl⟩ := Exact.finite.inj same
      exact ⟨representable_mul_pow (by omega) _, lt_overflow (by omega) (by omega)⟩

theorem toNat_packComponents (sign : Sign) (exponent : BitVec 11) (fraction : BitVec 52) :
    (UnpackedFloat.packComponents Format.binary64 sign exponent fraction).toNat =
      sign.toBitVec.toNat * 2 ^ 63 + exponent.toNat * 2 ^ 52 + fraction.toNat := by
  have below : fraction.toNat < 2 ^ 52 := fraction.isLt
  have exponents : exponent.toNat < 2 ^ 11 := exponent.isLt
  have same : UnpackedFloat.packComponents Format.binary64 sign exponent fraction =
      sign.toBitVec ++ exponent ++ fraction := rfl
  rw [same, BitVec.toNat_append, BitVec.toNat_append, ← Nat.shiftLeft_add_eq_or_of_lt exponents,
    ← Nat.shiftLeft_add_eq_or_of_lt below, Nat.shiftLeft_eq, Nat.shiftLeft_eq]
  omega

theorem exactly_components {unpacked : UnpackedFloat} {sign : Sign} {exponent : BitVec 11} {fraction : BitVec 52}
    (packed : UnpackedFloat.pack Format.binary64 unpacked =
      UnpackedFloat.packComponents Format.binary64 sign exponent fraction) :
    exactly (Float.ofModel (Float.Model.pack unpacked)) =
      ofFields sign.toBitVec.toNat exponent.toNat fraction.toNat := by
  have bits : (Float.ofModel (Float.Model.pack unpacked)).toBits.toNat =
      (UnpackedFloat.packComponents Format.binary64 sign exponent fraction).toNat :=
    congrArg BitVec.toNat packed
  have below : fraction.toNat < 2 ^ 52 := fraction.isLt
  have exponents : exponent.toNat < 2 ^ 11 := exponent.isLt
  have signs : sign.toBitVec.toNat < 2 := sign.toBitVec.isLt
  rw [exactly_fields, bits, toNat_packComponents]
  congr 1 <;> omega

theorem pack_finite (sign : Sign) (mantissa : Nat) (exponent : Int) (positive : 0 < mantissa) :
    UnpackedFloat.pack Format.binary64 (.finite sign mantissa exponent positive) =
      if 972 <= exponent then UnpackedFloat.packedInfinity Format.binary64 sign
      else if mantissa.log2 = 52 then
        UnpackedFloat.packComponents Format.binary64 sign (BitVec.ofNat 11 (exponent + 1075).toNat)
          (BitVec.ofNat 52 mantissa)
      else UnpackedFloat.packComponents Format.binary64 sign 0#11 (BitVec.ofNat 52 mantissa) := by
  have packed : UnpackedFloat.pack Format.binary64 (.finite sign mantissa exponent positive) =
      if 2 ^ 11 <= (exponent + 1023 + (52 : Nat)).toNat + 1 then UnpackedFloat.packedInfinity Format.binary64 sign
      else if mantissa.log2 + 1 = 53 then
        UnpackedFloat.packComponents Format.binary64 sign (BitVec.ofNat 11 (exponent + 1023 + (52 : Nat)).toNat)
          (BitVec.ofNat 52 mantissa)
      else UnpackedFloat.packComponents Format.binary64 sign 0#11 (BitVec.ofNat 52 mantissa) := rfl
  have biased : (exponent + 1023 + (52 : Nat)).toNat = (exponent + 1075).toNat := by omega
  have overflow : 2 ^ 11 <= (exponent + 1075).toNat + 1 ↔ 972 <= exponent := by omega
  have normal : mantissa.log2 + 1 = 53 ↔ mantissa.log2 = 52 := by omega
  rw [packed]
  simp only [biased, overflow, normal]

theorem sign_bit (negative : Bool) : ((modelSign negative).toBitVec.toNat == 1) = negative := by
  cases negative <;> rfl

theorem exactly_pack_zero (negative : Bool) :
    exactly (Float.ofModel (Float.Model.pack (.zero (modelSign negative)))) = .finite negative 0 := by
  have packed : UnpackedFloat.pack Format.binary64 (.zero (modelSign negative)) =
      UnpackedFloat.packComponents Format.binary64 (modelSign negative) 0#11 0#52 := rfl
  rw [exactly_components packed]
  simp [ofFields, sign_bit]

section Packing

variable {mantissa shift : Nat} {positive : 0 < mantissa}

theorem exactly_pack_infinite (negative : Bool) (large : 2046 <= shift) :
    exactly (Float.ofModel (Float.Model.pack (.finite (modelSign negative) mantissa (shift - 1074) positive))) =
      .infinite negative := by
  have packed := pack_finite (modelSign negative) mantissa (shift - 1074) positive
  rw [if_pos (by omega)] at packed
  rw [exactly_components packed]
  simp [ofFields, sign_bit]

theorem exactly_pack_normal (negative : Bool) (leading : 2 ^ 52 <= mantissa) (most : mantissa < 2 ^ 53)
    (small : shift < 2046) :
    exactly (Float.ofModel (Float.Model.pack (.finite (modelSign negative) mantissa (shift - 1074) positive))) =
      .finite negative (mantissa * 2 ^ shift) := by
  have packed := pack_finite (modelSign negative) mantissa (shift - 1074) positive
  rw [if_neg (by omega), if_pos ((Nat.log2_eq_iff (by omega)).2 ⟨leading, most⟩)] at packed
  have exponent : (BitVec.ofNat 11 ((shift : Int) - 1074 + 1075).toNat).toNat = shift + 1 := by
    rw [BitVec.toNat_ofNat]
    omega
  have fraction : (BitVec.ofNat 52 mantissa).toNat = mantissa - 2 ^ 52 := by
    rw [BitVec.toNat_ofNat]
    omega
  rw [exactly_components packed, exponent, fraction, ofFields, if_neg (by omega), if_neg (by omega), sign_bit,
    Nat.add_sub_cancel' leading, Nat.add_sub_cancel]

theorem exactly_pack_subnormal (negative : Bool) (small : mantissa < 2 ^ 52) :
    exactly (Float.ofModel (Float.Model.pack (.finite (modelSign negative) mantissa ((0 : Nat) - 1074) positive))) =
      .finite negative mantissa := by
  have packed := pack_finite (modelSign negative) mantissa ((0 : Nat) - 1074) positive
  have other : mantissa.log2 ≠ 52 := fun same =>
    absurd ((Nat.log2_eq_iff (by omega)).1 same).1 (Nat.not_le.2 small)
  rw [if_neg (by omega), if_neg other] at packed
  have fraction : (BitVec.ofNat 52 mantissa).toNat = mantissa := by
    rw [BitVec.toNat_ofNat]
    omega
  rw [exactly_components packed, fraction]
  simp [ofFields, sign_bit]

end Packing

theorem exactly_pack (representable : Representable units) (negative : Bool) :
    exactly (Float.ofModel (Float.Model.pack (unpackedOf (modelSign negative) units))) =
      if units < overflow then .finite negative units else .infinite negative := by
  have parts := representable.parts
  have large := @overflow_le_iff units
  have bits := lt_shiftOf units
  have normal (shifted : 0 < shiftOf units) := shiftOf_le shifted le_rfl
  unfold unpackedOf
  generalize shiftOf units = shift at *
  generalize units / 2 ^ shift = mantissa at *
  subst parts
  have most : mantissa < 2 ^ 53 := by
    rw [Nat.pow_add] at bits
    exact Nat.lt_of_mul_lt_mul_right bits
  have least (shifted : 0 < shift) : 2 ^ 52 <= mantissa := by
    have leading := normal shifted
    rw [Nat.pow_add] at leading
    exact Nat.le_of_mul_le_mul_right leading (Nat.two_pow_pos shift)
  unfold ofParts
  -- The exponent and the leading bit decide which of the four shapes is packed.
  by_cases zero : mantissa = 0
  next => rw [dif_pos zero, exactly_pack_zero, zero, Nat.zero_mul, if_pos overflow_pos]
  next =>
    rw [dif_neg zero]
    by_cases infinite : 2046 <= shift
    next => rw [exactly_pack_infinite negative infinite, if_neg (not_lt.2 (large.2 infinite))]
    next =>
      rw [if_pos (not_le.1 (mt large.1 infinite))]
      by_cases leading : 2 ^ 52 <= mantissa
      next => exact exactly_pack_normal negative leading most (not_le.1 infinite)
      next =>
        obtain rfl : shift = 0 := by
          by_contra shifted
          exact leading (least (Nat.pos_of_ne_zero shifted))
        rw [Nat.pow_zero, Nat.mul_one]
        exact exactly_pack_subnormal negative (not_le.1 leading)

theorem toBits_of_exactly (same : exactly x = .finite negative units) :
    x.toBits.toNat = (if negative then 2 ^ 63 else 0) + (shiftOf units * 2 ^ 52 + units / 2 ^ shiftOf units) := by
  have below : x.toBits.toNat % 2 ^ 52 < 2 ^ 52 := Nat.mod_lt _ (Nat.two_pow_pos 52)
  have word : x.toBits.toNat < 2 ^ 64 := x.toBits.toNat_lt
  have sign : x.toBits.toNat / 2 ^ 63 * 2 ^ 63 = if x.toBits.toNat / 2 ^ 63 == 1 then 2 ^ 63 else 0 := by
    have cases : x.toBits.toNat / 2 ^ 63 = 0 ∨ x.toBits.toNat / 2 ^ 63 = 1 := by omega
    rcases cases with none | one
    next =>
      rw [none]
      rfl
    next =>
      rw [one]
      rfl
  rw [exactly_fields] at same
  unfold ofFields at same
  split at same
  next => split at same <;> cases same
  next finite =>
    split at same
    next =>
      obtain ⟨rfl, rfl⟩ := Exact.finite.inj same
      rw [shiftOf_small (by omega), Nat.pow_zero, Nat.div_one, ← sign]
      omega
    next =>
      obtain ⟨rfl, rfl⟩ := Exact.finite.inj same
      rw [shiftOf_mul_pow (by omega) (by omega), Nat.mul_div_cancel _ (Nat.two_pow_pos _), ← sign]
      omega

theorem eq_of_exactly (same : exactly x = .finite negative units) (other : exactly y = .finite negative units) :
    x = y := by
  have bits : x.toBits = y.toBits :=
    UInt64.toNat_inj.1 ((toBits_of_exactly same).trans (toBits_of_exactly other).symm)
  obtain ⟨⟨first, _⟩⟩ := x
  obtain ⟨⟨second, _⟩⟩ := y
  obtain rfl : first = second := bits
  rfl

end Packed

end SpokenArithmetic.Arithmetic
