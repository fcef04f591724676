import SpokenArithmetic.Proofs.Arithmetic.Unpacked

set_option autoImplicit false

namespace SpokenArithmetic.Arithmetic

open Number
open Float.Model (UnpackedFloat Format totalExponent)
open Float.Model.UnpackedFloat (ExtendedMantissa Sign)

section Finite

variable {first second : Nat} {one other : Int} {firstPositive : 0 < first} {secondPositive : 0 < second}
  {sign otherSign : Sign}

theorem two_zpow_add (places : Nat) (exponent : Int) : (2 : ℚ) ^ (places + exponent) = 2 ^ places * 2 ^ exponent := by
  rw [zpow_add₀ (by norm_num), zpow_natCast]

theorem mul_finite (fine : 52 <= (first * second).log2 ∨ one + other <= -1074) :
    UnpackedFloat.mul Format.binary64 (.finite sign first one firstPositive)
        (.finite otherSign second other secondPositive) =
      unpackedOf (sign * otherSign) (nearest (first * second * 2 ^ (one + other + 1074))) := by
  have rounds := roundWithAccuracy_eq (holds_exact (first * second)) fine (sign * otherSign)
  rw [Nat.cast_mul] at rounds
  exact rounds

theorem div_finite :
    UnpackedFloat.div Format.binary64 (.finite sign first one firstPositive)
        (.finite otherSign second other secondPositive) =
      unpackedOf (sign / otherSign) (nearest (first / second * 2 ^ (one - other + 1074))) := by
  obtain ⟨target, targetEq⟩ : exists target, min (one - other)
    (Format.binary64.targetExponent (totalExponent first one - totalExponent second other)) = target := ⟨_, rfl⟩
  obtain ⟨shift, shiftEq⟩ : exists shift, (one - other - target).toNat = shift := ⟨_, rfl⟩
  -- The quotient has so many places that rounding only takes some away.
  have fine : 52 <= (first * 2 ^ shift / second).log2 ∨ target <= -1074 := by
    by_cases least : target <= -1074
    next => exact .inr least
    next =>
      left
      simp only [targetExponent_eq, totalExponent] at targetEq
      have places : second.log2 + 53 <= first.log2 + shift := by omega
      have enough : 2 ^ 52 * second <= first * 2 ^ shift := by
        calc
          2 ^ 52 * second <= 2 ^ 52 * 2 ^ (second.log2 + 1) := Nat.mul_le_mul_left _ Nat.lt_log2_self.le
          _ = 2 ^ (second.log2 + 53) := by rw [← Nat.pow_add]; congr 1; omega
          _ <= 2 ^ (first.log2 + shift) := Nat.pow_le_pow_right (by decide) places
          _ = 2 ^ first.log2 * 2 ^ shift := Nat.pow_add 2 _ _
          _ <= first * 2 ^ shift := Nat.mul_le_mul_right _ (Nat.log2_self_le (by omega))
      have quotient : 2 ^ 52 <= first * 2 ^ shift / second := (Nat.le_div_iff_mul_le secondPositive).2 enough
      exact (Nat.le_log2 (by omega)).2 quotient
  have rounds := roundWithAccuracy_eq (holds_fraction (first * 2 ^ shift) secondPositive) fine (sign / otherSign)
  have value : ((first * 2 ^ shift : Nat) : ℚ) / second * 2 ^ (target + 1074) =
      first / second * 2 ^ (one - other + 1074) := by
    have total : one - other + 1074 = shift + (target + 1074) := by omega
    rw [total, two_zpow_add]
    push_cast
    ring
  rw [value] at rounds
  rw [← rounds]
  unfold UnpackedFloat.div UnpackedFloat.divCore
  simp only [targetEq, shiftEq, Nat.shiftLeft_eq]

theorem round_finite (positive : 0 < first) :
    UnpackedFloat.round Format.binary64 sign first one = unpackedOf sign (nearest (first * 2 ^ (one + 1074))) := by
  have nonzero : first ≠ 0 := by omega
  obtain ⟨shift, shiftEq⟩ : exists shift,
      (one - Format.binary64.targetExponent (totalExponent first one)).toNat = shift :=
    ⟨_, rfl⟩
  rw [targetExponent_total] at shiftEq
  have fine : 52 <= (first * 2 ^ shift).log2 ∨ one - shift <= -1074 := by
    rw [log2_mul_pow positive]
    omega
  have rounds := roundWithAccuracy_eq (holds_exact (first * 2 ^ shift)) fine sign
  have value : ((first * 2 ^ shift : Nat) : ℚ) * 2 ^ (one - shift + 1074) = first * 2 ^ (one + 1074) := by
    have total : one + 1074 = shift + (one - shift + 1074) := by omega
    rw [total, two_zpow_add]
    push_cast
    ring
  rw [value] at rounds
  rw [← rounds]
  unfold UnpackedFloat.round UnpackedFloat.decreaseExponent
  simp only [targetExponent_total, shiftEq, Nat.shiftLeft_eq]

theorem normalize_finite {total : Int} (some : total ≠ 0) :
    UnpackedFloat.normalize Format.binary64 total one .positive =
      unpackedOf (modelSign (decide (total < 0))) (nearest (total.natAbs * 2 ^ (one + 1074))) := by
  unfold UnpackedFloat.normalize
  rcases lt_trichotomy total 0 with negative | zero | positive
  next =>
    have magnitude : (-total).toNat = total.natAbs := by omega
    rw [compare_lt_iff_lt.2 negative, decide_eq_true negative]
    dsimp only
    rw [magnitude, round_finite (by omega)]
    rfl
  next => exact absurd zero some
  next =>
    have magnitude : total.toNat = total.natAbs := by omega
    rw [compare_gt_iff_gt.2 positive, decide_eq_false (by omega)]
    dsimp only
    rw [magnitude, round_finite (by omega)]
    rfl

theorem add_finite :
    UnpackedFloat.add Format.binary64 (.finite sign first one firstPositive)
        (.finite otherSign second other secondPositive) =
      UnpackedFloat.normalize Format.binary64
        (sign.apply (first <<< (one - min one other).toNat : Nat) +
          otherSign.apply (second <<< (other - min one other).toNat : Nat)) (min one other) .positive :=
  rfl

theorem compare_finite :
    (UnpackedFloat.finite .positive first one firstPositive).compare (.finite .positive second other secondPositive) =
      some ((compare one other).then (compare first second)) :=
  rfl

end Finite

section Exactly

variable {x y : Float} {first second : Nat} {negative otherNegative : Bool} {q : ℚ}

def nearestExact (negative : Bool) (q : ℚ) : Exact :=
  if nearest q < overflow then .finite negative (nearest q) else .infinite negative

theorem exactly_of_packed (nonneg : 0 <= q)
    (packed : x.toModel = Float.Model.pack (unpackedOf (modelSign negative) (nearest q))) :
    exactly x = nearestExact negative q := by
  have same : x = Float.ofModel (Float.Model.pack (unpackedOf (modelSign negative) (nearest q))) := by
    rw [← packed]
  rw [same, exactly_pack (representable_nearest nonneg)]
  rfl

theorem nearestExact_finite (below : nearest q < overflow) (negative : Bool) :
    nearestExact negative q = .finite negative (nearest q) :=
  if_pos below

theorem nearestExact_natCast {units : Nat} (representable : Representable units) (small : units < overflow)
    (negative : Bool) : nearestExact negative units = .finite negative units := by
  rw [nearestExact, nearest_natCast representable, if_pos small]

theorem unpackedOf_cases {units : Nat} (representable : Representable units) (sign : Sign) :
    units = 0 ∧ unpackedOf sign units = .zero sign ∨
      exists (mantissa places : Nat) (positive : 0 < mantissa),
        unpackedOf sign units = .finite sign mantissa (places - 1074) positive ∧ units = mantissa * 2 ^ places ∧
          mantissa < 2 ^ 53 ∧ (places = 0 ∨ 2 ^ 52 <= mantissa) := by
  have parts := representable.parts
  have bits := lt_shiftOf units
  by_cases zero : units / 2 ^ shiftOf units = 0
  next =>
    left
    rw [zero, Nat.zero_mul] at parts
    exact ⟨parts.symm, dif_pos zero⟩
  next =>
    right
    refine ⟨units / 2 ^ shiftOf units, shiftOf units, Nat.pos_of_ne_zero zero, dif_neg zero, parts.symm, ?_, ?_⟩
    next =>
      rw [Nat.div_lt_iff_lt_mul (Nat.two_pow_pos _), ← Nat.pow_add]
      exact bits
    next =>
      rcases Nat.eq_zero_or_pos (shiftOf units) with none | shifted
      next => exact .inl none
      next =>
        right
        rw [Nat.le_div_iff_mul_le (Nat.two_pow_pos _), ← Nat.pow_add]
        exact shiftOf_le shifted le_rfl

theorem unpackedOf_zero (sign : Sign) : unpackedOf sign 0 = .zero sign := rfl

theorem nearest_zero : nearest 0 = 0 := by
  have zero := nearest_natCast (representable_small (show 0 < 2 ^ 53 by decide))
  rwa [Nat.cast_zero] at zero

theorem cast_twoTo (places : Nat) : (twoTo places : ℚ) = 2 ^ (places : Int) := by
  rw [zpow_natCast]
  exact Nat.cast_pow 2 places

theorem cast_one : (one : ℚ) = 2 ^ (1074 : Int) :=
  cast_twoTo 1074

theorem one_pos : (0 : ℚ) < one := by
  rw [cast_one]
  exact two_zpow_pos _

theorem exactly_mul (left : exactly x = .finite negative first) (right : exactly y = .finite otherNegative second) :
    exactly (x * y) = nearestExact (negative != otherNegative) (first * second / one) := by
  have signs : modelSign negative * modelSign otherNegative = modelSign (negative != otherNegative) := by
    cases negative <;> cases otherNegative <;> rfl
  apply exactly_of_packed (by positivity)
  have packed : (x * y).toModel =
      Float.Model.pack (UnpackedFloat.mul Format.binary64 x.toModel.unpack y.toModel.unpack) := rfl
  rw [packed, unpack_eq, unpack_eq, left, right, unpackedExact, unpackedExact]
  congr 1
  rcases unpackedOf_cases (exactly_units left).1 (modelSign negative) with ⟨rfl, zero⟩ |
    ⟨mantissa, places, positive, parts, rfl, bits, normal⟩
  next =>
    rw [zero, Nat.cast_zero, zero_mul, zero_div, nearest_zero, ← signs, unpackedOf_zero]
    rcases unpackedOf_cases (exactly_units right).1 (modelSign otherNegative) with ⟨_, other⟩ |
      ⟨_, _, _, other, _⟩ <;>
      rw [other] <;> rfl
  next =>
    rcases unpackedOf_cases (exactly_units right).1 (modelSign otherNegative) with ⟨rfl, zero⟩ |
      ⟨mantissa', places', positive', parts', rfl, bits', normal'⟩
    next =>
      rw [parts, zero, Nat.cast_zero, mul_zero, zero_div, nearest_zero, ← signs]
      rfl
    next =>
      have fine : 52 <= (mantissa * mantissa').log2 ∨ (places : Int) - 1074 + (places' - 1074) <= -1074 := by
        by_cases small : places + places' <= 1074
        next => exact .inr (by omega)
        next =>
          left
          refine (Nat.le_log2 (Nat.mul_pos positive positive').ne').2 ?_
          rcases normal with none | leading
          next =>
            have leading' := normal'.resolve_left (by omega)
            exact leading'.trans (Nat.le_mul_of_pos_left _ positive)
          next => exact leading.trans (Nat.le_mul_of_pos_right _ positive')
      have value : (mantissa : ℚ) * mantissa' * 2 ^ ((places : Int) - 1074 + (places' - 1074) + 1074) =
          (mantissa * 2 ^ places : Nat) * (mantissa' * 2 ^ places' : Nat) / one := by
        have total : (places : Int) - 1074 + (places' - 1074) + 1074 = places + (places' + -1074) := by omega
        rw [total, two_zpow_add, two_zpow_add, zpow_neg, cast_one, Nat.cast_mul, Nat.cast_mul, Nat.cast_pow,
          Nat.cast_pow]
        generalize (2 : ℚ) ^ (1074 : Int) = unit
        push_cast
        ring
      rw [parts, parts', mul_finite fine, value, signs]

theorem exactly_div (left : exactly x = .finite negative first) (right : exactly y = .finite otherNegative second)
    (divisor : second ≠ 0) : exactly (x / y) = nearestExact (negative != otherNegative) (first / second * one) := by
  have signs : modelSign negative / modelSign otherNegative = modelSign (negative != otherNegative) := by
    cases negative <;> cases otherNegative <;> rfl
  apply exactly_of_packed (mul_nonneg (by positivity) one_pos.le)
  have packed : (x / y).toModel =
      Float.Model.pack (UnpackedFloat.div Format.binary64 x.toModel.unpack y.toModel.unpack) := rfl
  rw [packed, unpack_eq, unpack_eq, left, right, unpackedExact, unpackedExact]
  congr 1
  obtain ⟨mantissa', places', positive', parts', rfl, _⟩ :=
    (unpackedOf_cases (exactly_units right).1 (modelSign otherNegative)).resolve_left fun zero => divisor zero.1
  rcases unpackedOf_cases (exactly_units left).1 (modelSign negative) with ⟨rfl, zero⟩ |
    ⟨mantissa, places, positive, parts, rfl, _⟩
  next =>
    rw [zero, parts', Nat.cast_zero, zero_div, zero_mul, nearest_zero, ← signs]
    rfl
  next =>
    have value : (mantissa : ℚ) / mantissa' * 2 ^ ((places : Int) - 1074 - (places' - 1074) + 1074) =
        (mantissa * 2 ^ places : Nat) / (mantissa' * 2 ^ places' : Nat) * one := by
      have total : (places : Int) - 1074 - (places' - 1074) + 1074 = places + (-places' + 1074) := by omega
      rw [total, two_zpow_add, zpow_add₀ (by norm_num), zpow_neg, zpow_natCast, cast_one]
      generalize (2 : ℚ) ^ (1074 : Int) = unit
      push_cast
      field_simp
    rw [parts, parts', div_finite, value, signs]

def signed (negative : Bool) (units : Nat) : Int :=
  if negative then -units else units

theorem signed_eq (negative : Bool) (units : Nat) : signed negative units = (modelSign negative).apply units := by
  cases negative <;> rfl

theorem signed_sign {negative : Bool} {units : Nat} (some : units ≠ 0) :
    decide (signed negative units < 0) = negative := by
  cases negative <;> simp [signed]
  omega

theorem natAbs_signed (negative : Bool) (units : Nat) : (signed negative units).natAbs = units := by
  cases negative <;> simp [signed]

theorem signed_zero (negative : Bool) : signed negative 0 = 0 := by
  cases negative <;> rfl

theorem signed_mul_pow (negative : Bool) (units places : Nat) :
    signed negative (units * 2 ^ places) = signed negative units * 2 ^ places := by
  cases negative <;> simp [signed]

theorem normalize_scaled {low : Nat} {total : Int} (some : total ≠ 0) :
    UnpackedFloat.normalize Format.binary64 total (low - 1074) .positive =
      unpackedOf (modelSign (decide (total * 2 ^ low < 0))) (nearest (total * 2 ^ low).natAbs) := by
  have power : (0 : Int) < 2 ^ low := by positivity
  have sign : total * 2 ^ low < 0 ↔ total < 0 := by
    rw [← not_le, ← not_le, mul_nonneg_iff_of_pos_right power]
  have value : (total.natAbs : ℚ) * 2 ^ ((low : Int) - 1074 + 1074) = ((total * 2 ^ low).natAbs : Nat) := by
    have places : (low : Int) - 1074 + 1074 = low := by omega
    rw [places, zpow_natCast, Int.natAbs_mul, Nat.cast_mul]
    congr 1
    simp [Int.natAbs_pow]
  rw [normalize_finite some, value, decide_eq_decide.2 sign]

-- Both numbers are multiples of the smaller of their places.
theorem add_aligned {mantissa mantissa' low up up' : Nat} {positive : 0 < mantissa} {positive' : 0 < mantissa'}
    (smaller : min up up' = 0) :
    UnpackedFloat.add Format.binary64
        (.finite (modelSign negative) mantissa ((low + up : Nat) - 1074) positive)
        (.finite (modelSign otherNegative) mantissa' ((low + up' : Nat) - 1074) positive') =
      UnpackedFloat.normalize Format.binary64
        (signed negative (mantissa * 2 ^ up) + signed otherNegative (mantissa' * 2 ^ up')) (low - 1074) .positive := by
  have least : min (((low + up : Nat) : Int) - 1074) ((low + up' : Nat) - 1074) = low - 1074 := by omega
  have shift : (((low + up : Nat) : Int) - 1074 - (low - 1074)).toNat = up := by omega
  have shift' : (((low + up' : Nat) : Int) - 1074 - (low - 1074)).toNat = up' := by omega
  rw [add_finite, least, shift, shift', Nat.shiftLeft_eq, Nat.shiftLeft_eq, signed_eq, signed_eq]

theorem exactly_add (left : exactly x = .finite negative first) (right : exactly y = .finite otherNegative second)
    (some : signed negative first + signed otherNegative second ≠ 0) :
    exactly (x + y) = nearestExact (decide (signed negative first + signed otherNegative second < 0))
      (signed negative first + signed otherNegative second).natAbs := by
  apply exactly_of_packed (by positivity)
  have packed : (x + y).toModel =
      Float.Model.pack (UnpackedFloat.add Format.binary64 x.toModel.unpack y.toModel.unpack) := rfl
  have firstUnits := (exactly_units left).1
  have secondUnits := (exactly_units right).1
  rw [packed, unpack_eq, unpack_eq, left, right, unpackedExact, unpackedExact]
  congr 1
  rcases unpackedOf_cases firstUnits (modelSign negative) with ⟨rfl, zero⟩ |
    ⟨mantissa, places, positive, parts, rfl, _⟩
  next =>
    rw [signed_zero, zero_add] at some
    rw [zero, signed_zero, zero_add, natAbs_signed, nearest_natCast secondUnits]
    have present : second ≠ 0 := fun same => some (by rw [same, signed_zero])
    obtain ⟨_, _, _, parts', _⟩ :=
      (unpackedOf_cases secondUnits (modelSign otherNegative)).resolve_left fun zero => present zero.1
    rw [signed_sign present, parts']
    rfl
  next =>
    rcases unpackedOf_cases secondUnits (modelSign otherNegative) with ⟨rfl, zero⟩ |
      ⟨mantissa', places', positive', parts', rfl, _⟩
    next =>
      have present : mantissa * 2 ^ places ≠ 0 := (Nat.mul_pos positive (Nat.two_pow_pos _)).ne'
      rw [signed_zero, add_zero, natAbs_signed, nearest_natCast firstUnits, signed_sign present, parts, zero]
      rfl
    next =>
      obtain ⟨low, lowEq⟩ : exists low, min places places' = low := ⟨_, rfl⟩
      obtain ⟨up, rfl⟩ := Nat.exists_eq_add_of_le (show low <= places by omega)
      obtain ⟨up', rfl⟩ := Nat.exists_eq_add_of_le (show low <= places' by omega)
      have sum : signed negative (mantissa * 2 ^ (low + up)) + signed otherNegative (mantissa' * 2 ^ (low + up')) =
          (signed negative (mantissa * 2 ^ up) + signed otherNegative (mantissa' * 2 ^ up')) * 2 ^ low := by
        rw [signed_mul_pow, signed_mul_pow, signed_mul_pow, signed_mul_pow, pow_add, pow_add]
        ring
      rw [sum] at some ⊢
      rw [parts, parts', add_aligned (by omega), normalize_scaled fun none => some (by rw [none, zero_mul])]

theorem exactly_of_sign {otherSign : Bool} {units : Nat} (representable : Representable units)
    (small : units < overflow)
    (packed : x.toModel = Float.Model.pack (unpackedOf (modelSign otherSign) units)) :
    exactly x = .finite otherSign units := by
  rw [← nearestExact_natCast representable small]
  apply exactly_of_packed (Nat.cast_nonneg units)
  rw [packed, nearest_natCast representable]

theorem exactly_neg (same : exactly x = .finite negative first) : exactly (-x) = .finite (!negative) first := by
  obtain ⟨representable, small⟩ := exactly_units same
  have packed : (-x).toModel = Float.Model.pack x.toModel.unpack.neg := rfl
  apply exactly_of_sign representable small
  rw [packed, unpack_eq, same, unpackedExact]
  unfold unpackedOf ofParts
  by_cases zero : first / 2 ^ shiftOf first = 0
  next =>
    rw [dif_pos zero, dif_pos zero]
    cases negative <;> rfl
  next =>
    rw [dif_neg zero, dif_neg zero]
    cases negative <;> rfl

theorem exactly_abs (same : exactly x = .finite negative first) : exactly x.abs = .finite false first := by
  obtain ⟨representable, small⟩ := exactly_units same
  have packed : x.abs.toModel = Float.Model.pack x.toModel.unpack.abs := rfl
  apply exactly_of_sign representable small
  rw [packed, unpack_eq, same, unpackedExact]
  unfold unpackedOf ofParts
  by_cases zero : first / 2 ^ shiftOf first = 0
  next =>
    rw [dif_pos zero, dif_pos zero]
    rfl
  next =>
    rw [dif_neg zero, dif_neg zero]
    rfl

theorem exactly_abs_infinite (same : exactly x = .infinite negative) : exactly x.abs = .infinite false := by
  have packed : x.abs.toModel = Float.Model.pack x.toModel.unpack.abs := rfl
  rw [unpack_eq, same] at packed
  have result : x.abs = Float.ofModel (Float.Model.pack (.infinity .positive)) := congrArg Float.ofModel packed
  rw [result]
  rfl

end Exactly

section Order

variable {x y : Float} {first second : Nat}

theorem compare_units (left : Representable first) (right : Representable second) :
    (unpackedOf .positive first).compare (unpackedOf .positive second) = some (compare first second) := by
  rcases unpackedOf_cases left .positive with ⟨rfl, zero⟩ | ⟨mantissa, places, positive, parts, rfl, bits, normal⟩
  next =>
    rw [zero]
    rcases unpackedOf_cases right .positive with ⟨rfl, other⟩ | ⟨mantissa, places, positive, other, rfl, _⟩
    next => rw [other]; rfl
    next =>
      rw [other, compare_lt_iff_lt.2 (Nat.mul_pos positive (Nat.two_pow_pos _))]
      rfl
  next =>
    rw [parts]
    rcases unpackedOf_cases right .positive with ⟨rfl, zero⟩ |
      ⟨mantissa', places', positive', parts', rfl, bits', normal'⟩
    next =>
      rw [zero, compare_gt_iff_gt.2 (Nat.mul_pos positive (Nat.two_pow_pos _))]
      rfl
    next =>
      have below {low high one other : Nat} (less : one < other) (lowBits : low < 2 ^ 53)
          (highNormal : other = 0 ∨ 2 ^ 52 <= high) : low * 2 ^ one < high * 2 ^ other := by
        have leading := highNormal.resolve_left (by omega)
        calc
          low * 2 ^ one < 2 ^ 53 * 2 ^ one := Nat.mul_lt_mul_of_pos_right lowBits (Nat.two_pow_pos one)
          _ = 2 ^ 52 * 2 ^ (one + 1) := by rw [Nat.pow_succ 2 one]; omega
          _ <= high * 2 ^ other := Nat.mul_le_mul leading (Nat.pow_le_pow_right (by decide) less)
      rw [parts', compare_finite]
      congr 1
      rcases lt_trichotomy places places' with less | rfl | more
      next =>
        rw [compare_lt_iff_lt.2 (below less bits normal'), compare_lt_iff_lt.2 (by omega)]
        rfl
      next =>
        rw [compare_eq_iff_eq.2 rfl, Ordering.then]
        rcases lt_trichotomy mantissa mantissa' with less | rfl | more
        next =>
          rw [compare_lt_iff_lt.2 less,
            compare_lt_iff_lt.2 (Nat.mul_lt_mul_of_pos_right less (Nat.two_pow_pos _))]
        next => rw [compare_eq_iff_eq.2 rfl, compare_eq_iff_eq.2 rfl]
        next =>
          rw [compare_gt_iff_gt.2 more,
            compare_gt_iff_gt.2 (Nat.mul_lt_mul_of_pos_right more (Nat.two_pow_pos _))]
      next =>
        rw [compare_gt_iff_gt.2 (below more bits' normal), compare_gt_iff_gt.2 (by omega)]
        rfl

theorem compare_exactly (left : exactly x = .finite false first) (right : exactly y = .finite false second) :
    x.toModel.unpack.compare y.toModel.unpack = some (compare first second) := by
  rw [unpack_eq, unpack_eq, left, right]
  exact compare_units (exactly_units left).1 (exactly_units right).1

theorem lt_iff (left : exactly x = .finite false first) (right : exactly y = .finite false second) :
    x < y ↔ first < second := by
  have compared := compare_exactly left right
  change decide (x.toModel < y.toModel) = true ↔ _
  rw [decide_eq_true_iff]
  change UnpackedFloat.lt _ _ = true ↔ _
  rw [UnpackedFloat.lt, compared, ← compare_lt_iff_lt]
  simp

theorem le_iff (left : exactly x = .finite false first) (right : exactly y = .finite false second) :
    x <= y ↔ first <= second := by
  have compared := compare_exactly left right
  change decide (x.toModel <= y.toModel) = true ↔ _
  rw [decide_eq_true_iff]
  change UnpackedFloat.le _ _ = true ↔ _
  rw [UnpackedFloat.le, compared, ← compare_le_iff_le]
  simp [Ordering.isLE_iff_ne_gt]

theorem le_infinite (left : exactly x = .finite false first) (right : exactly y = .infinite false) : x <= y := by
  change decide (x.toModel <= y.toModel) = true
  rw [decide_eq_true_iff]
  change UnpackedFloat.le _ _ = true
  rw [unpack_eq, unpack_eq, left, right, unpackedExact, unpackedExact]
  rcases unpackedOf_cases (exactly_units left).1 (modelSign false) with ⟨_, zero⟩ | ⟨_, _, _, parts, _⟩
  next => rw [zero]; rfl
  next => rw [parts]; rfl

end Order

end SpokenArithmetic.Arithmetic
