import SpokenArithmetic.Proofs.Arithmetic.Millionths

set_option autoImplicit false

namespace SpokenArithmetic.Arithmetic

open Number

variable {x : Float} {negative : Bool} {units n : Nat}

/-- The sum of a half and the value is rounded to an integer that it is below: the value is the greatest
double below one half, or it is an odd integer from 2^52 to 2^53. -/
def Overshoots (negative : Bool) (units : Nat) : Prop :=
  units % one = 0 ∧ units / one % 2 = 1 ∧ 2 ^ 52 < units / one ∧ units / one < 2 ^ 53 ∨
    negative = false ∧ 2 ^ 54 * units + one = 2 ^ 53 * one

instance (negative : Bool) (units : Nat) : Decidable (Overshoots negative units) :=
  inferInstanceAs (Decidable (_ ∨ _))

def overshoot (negative : Bool) (units : Nat) : Int :=
  if Overshoots negative units then 1 else 0

theorem overshoots_integer (n : Nat) :
    Overshoots negative (n * one) ↔ n % 2 = 1 ∧ 2 ^ 52 < n ∧ n < 2 ^ 53 := by
  have positive : 0 < one := Nat.cast_pos.1 one_pos
  unfold Overshoots
  rw [Nat.mul_mod_left, Nat.mul_div_cancel _ positive]
  constructor
  next =>
    rintro (⟨_, odd⟩ | ⟨_, same⟩)
    next => exact odd
    next =>
      rw [← Nat.mul_assoc, ← Nat.succ_mul] at same
      have whole := Nat.eq_of_mul_eq_mul_right positive same
      omega
  next => exact fun odd => .inl ⟨rfl, odd⟩

theorem overshoots_small (small : units < 2 ^ 52 * one) :
    Overshoots negative units ↔ negative = false ∧ 2 ^ 54 * units + one = 2 ^ 53 * one := by
  have whole : units / one < 2 ^ 52 := (Nat.div_lt_iff_lt_mul (Nat.cast_pos.1 one_pos)).2 small
  constructor
  next =>
    rintro (⟨_, _, large, _⟩ | greatest)
    next => exact absurd (whole.trans large) (lt_irrefl _)
    next => exact greatest
  next => exact .inr

theorem floorUnits_of_floors {places total : Nat} (unit : one = 4 * 2 ^ places) (floors : Floors places total n) :
    floorUnits false total = n := by
  have integer (count : Nat) : 4 * count * 2 ^ places = count * one := by
    rw [unit]
    ring
  unfold Floors at floors
  rw [integer, integer] at floors
  exact floorUnits_positive floors.1 floors.2

theorem exists_integer (representable : Representable units) (least : 2 ^ 52 * one <= units) :
    exists n, units = n * one ∧ 2 ^ 52 <= n := by
  obtain ⟨places, _, unit⟩ := quarter_power
  have four : one = 2 ^ (places + 2) := by
    rw [unit]
    ring
  rw [four] at least ⊢
  exact exists_count representable least

theorem exists_large (representable : Representable units) (large : 2 ^ 53 * one <= units) :
    exists n, units = n * one ∧ 2 ^ 53 <= n := by
  have fewer : 2 ^ 52 * one <= 2 ^ 53 * one := Nat.mul_le_mul_right one (by decide)
  obtain ⟨n, same, _⟩ := exists_integer representable (fewer.trans large)
  rw [same] at large
  exact ⟨n, same, Nat.le_of_mul_le_mul_right large (Nat.cast_pos.1 one_pos)⟩

theorem overshoot_integer (n : Nat) (middle : 2 ^ 52 <= n) (small : n < 2 ^ 53) :
    overshoot negative (n * one) = (n % 2 : Nat) := by
  have odd : Overshoots negative (n * one) ↔ n % 2 = 1 := by
    rw [overshoots_integer]
    omega
  unfold overshoot
  split
  next overshoots => rw [odd.1 overshoots, Nat.cast_one]
  next even => rw [Nat.mod_two_ne_one.1 (mt odd.2 even), Nat.cast_zero]

theorem overshoot_large (n : Nat) (large : 2 ^ 53 <= n) : overshoot negative (n * one) = 0 :=
  if_neg fun overshoots => absurd ((overshoots_integer n).1 overshoots).2.2 (not_lt.2 large)

theorem overshoot_small (small : units < 2 ^ 52 * one) (other : negative = true ∨ 2 * quarter <= units) :
    overshoot negative units = 0 := by
  refine if_neg fun overshoots => ?_
  obtain ⟨positive, greatest⟩ := (overshoots_small small).1 overshoots
  rcases other with minus | half
  next => simp [positive] at minus
  next =>
    have scaled : 2 ^ 53 * one <= 2 ^ 54 * units := by
      have parts : 2 ^ 53 * (4 * quarter) = 2 ^ 54 * (2 * quarter) := by ring
      rw [one_quarters, parts]
      exact Nat.mul_le_mul_left _ half
    exact absurd (greatest.trans_le scaled) (not_le.2 (Nat.lt_add_of_pos_right (Nat.cast_pos.1 one_pos)))

section Integers

theorem floorUnits_integer (n : Nat) : floorUnits false (n * one) = n ∧ floorUnits true (n * one) = -n := by
  have unit : 0 < one := Nat.cast_pos.1 one_pos
  exact ⟨floorUnits_positive le_rfl (Nat.mul_lt_mul_of_pos_right (Nat.lt_succ_self n) unit),
    floorUnits_negative (Nat.lt_add_of_pos_right unit) le_rfl⟩

theorem floorUnits_half (n : Nat) :
    floorUnits false (n * one + 2 * quarter) = n ∧ (0 < n -> floorUnits true (n * one - 2 * quarter) = -n) := by
  have unit := one_quarters
  have some := quarter_pos
  constructor
  next => exact floorUnits_positive (Nat.le_add_right _ _) (by rw [Nat.add_mul]; omega)
  next =>
    intro positive
    have room : one <= n * one := Nat.le_mul_of_pos_left _ positive
    exact floorUnits_negative (by omega) (Nat.sub_le _ _)

end Integers

-- A half and one in steps of which a half has 2^53.
theorem quarter_fine : exists fine, 2 * quarter = 2 ^ 53 * 2 ^ fine ∧ one = 2 ^ 54 * 2 ^ fine := by
  have power (places : Nat) : twoTo places = 2 ^ places := rfl
  obtain ⟨fine, fineEq⟩ : exists fine, 1020 = fine := ⟨_, rfl⟩
  have total : 1072 = fine + 52 := by omega
  rw [one_quarters]
  unfold quarter
  rw [total, power]
  exact ⟨fine, by ring, by ring⟩

section Added

variable (representable : Representable units)
include representable

theorem add_half_large (large : 2 ^ 53 * one <= units) :
    floorUnits false (nearest (units + 2 * quarter : Nat)) =
      floorUnits false (units + 2 * quarter) + overshoot false units := by
  obtain ⟨places, power, unit⟩ := quarter_power
  have sum : nearest (units + 2 * quarter : Nat) = units := by
    rw [unit] at large
    rw [power]
    exact nearest_add_half representable large
  obtain ⟨n, same, whole⟩ := exists_large representable large
  rw [sum, same, overshoot_large n whole, (floorUnits_integer n).1, (floorUnits_half n).1, Int.add_zero]

theorem sub_half_large (large : 2 ^ 53 * one <= units) :
    floorUnits true (nearest (units - 2 * quarter : Nat)) =
      floorUnits true (units - 2 * quarter) + overshoot true units := by
  obtain ⟨places, power, unit⟩ := quarter_power
  have difference : nearest (units - 2 * quarter : Nat) = units := by
    rw [unit] at large
    rw [power]
    exact nearest_sub_half representable large
  obtain ⟨n, same, whole⟩ := exists_large representable large
  rw [difference, same, overshoot_large n whole, (floorUnits_integer n).2, (floorUnits_half n).2 (by omega),
    Int.add_zero]

omit representable in
theorem add_half_middle (least : 2 ^ 52 <= n) (small : n < 2 ^ 53) :
    floorUnits false (nearest (n * one + 2 * quarter : Nat)) =
      floorUnits false (n * one + 2 * quarter) + overshoot false (n * one) := by
  obtain ⟨places, power, unit⟩ := quarter_power
  have floors := @floors_integer n places least small
  have parts : 4 * n * 2 ^ places = n * one := by
    rw [unit]
    ring
  rw [parts, ← power] at floors
  rw [floorUnits_of_floors unit floors, overshoot_integer n least small, (floorUnits_half n).1, Nat.cast_add]

omit representable in
theorem sub_half_middle (least : 2 ^ 52 <= n) (small : n < 2 ^ 53) :
    floorUnits true (nearest (n * one - 2 * quarter : Nat)) =
      floorUnits true (n * one - 2 * quarter) + overshoot true (n * one) := by
  obtain ⟨places, power, unit⟩ := quarter_power
  have parts : n * one - 2 * quarter = (4 * n - 2) * 2 ^ places := by
    have integer : n * (4 * 2 ^ places) = 4 * n * 2 ^ places := by ring
    rw [unit, power, Nat.sub_mul, integer]
  rw [overshoot_integer n least small, (floorUnits_half n).2 (by omega)]
  by_cases first : n = 2 ^ 52
  next =>
    have halves : 4 * n - 2 = 2 * (2 * n - 1) := by omega
    have own : nearest (n * one - 2 * quarter : Nat) = n * one - 2 * quarter := by
      rw [parts, halves]
      exact nearest_natCast (representable_halves_pow (by omega) places)
    rw [own, (floorUnits_half n).2 (by omega)]
    omega
  next =>
    have before := @nearest_half_above (n - 1) places (by omega) (by omega)
    have same : 4 * (n - 1) + 2 = 4 * n - 2 := by omega
    have integer : 4 * (n - 1 + (n - 1) % 2) * 2 ^ places = (n - 1 + (n - 1) % 2) * one := by
      rw [unit]
      ring
    rw [same, ← parts, integer] at before
    rw [before, (floorUnits_integer _).2]
    omega

theorem sub_half_small (small : units < 2 ^ 52 * one) :
    floorUnits true (nearest (units - 2 * quarter : Nat)) =
      floorUnits true (units - 2 * quarter) + overshoot true units := by
  obtain ⟨places, power, unit⟩ := quarter_power
  have own : nearest (units - 2 * quarter : Nat) = units - 2 * quarter := by
    rw [unit] at small
    rw [power]
    exact nearest_natCast (representable_sub_half representable small)
  rw [own, overshoot_small small (.inl rfl), Int.add_zero]

theorem add_half_small (small : units < 2 ^ 52 * one) (least : 2 * quarter <= units) :
    floorUnits false (nearest (units + 2 * quarter : Nat)) =
      floorUnits false (units + 2 * quarter) + overshoot false units := by
  obtain ⟨places, power, unit⟩ := quarter_power
  rw [overshoot_small small (.inr least), Int.add_zero]
  have floors : Floors places (nearest (units + 2 * quarter : Nat)) ((units + 2 * quarter) / one) := by
    rw [unit] at small ⊢
    rw [power] at least ⊢
    exact floors_add_half representable least small
  rw [floorUnits_of_floors unit floors]
  simp only [floorUnits, Bool.false_eq_true, if_false]
  exact Int.natCast_ediv _ _

theorem add_half_tiny (small : units < 2 * quarter) :
    floorUnits false (nearest (units + 2 * quarter : Nat)) =
      floorUnits false (units + 2 * quarter) + overshoot false units := by
  obtain ⟨fine, power, unit⟩ := quarter_fine
  have positive : 0 < one := Nat.cast_pos.1 one_pos
  have below : units < 2 ^ 52 * one := by
    have quarters := one_quarters
    omega
  have cut : floorUnits false (units + 2 * quarter) = (0 : Nat) := by
    have quarters := one_quarters
    exact floorUnits_positive (by omega) (by omega)
  have greatest : Overshoots false units ↔ units = (2 ^ 53 - 1) * 2 ^ fine := by
    have scaled : 2 ^ 53 * (2 ^ 54 * 2 ^ fine) = 2 ^ 54 * ((2 ^ 53 - 1) * 2 ^ fine) + 2 ^ 54 * 2 ^ fine := by
      rw [← Nat.mul_add, ← Nat.succ_mul, Nat.mul_left_comm]
      rfl
    rw [overshoots_small below, unit, scaled, Nat.add_right_cancel_iff, Nat.mul_right_inj (by decide)]
    exact and_iff_right rfl
  rw [cut]
  unfold overshoot
  by_cases last : units = (2 ^ 53 - 1) * 2 ^ fine
  next =>
    have sum : nearest (units + 2 * quarter : Nat) = 1 * one := by
      rw [last, power, unit, Nat.one_mul]
      exact nearest_add_half_greatest
    rw [if_pos (greatest.2 last), sum, (floorUnits_integer 1).1]
    rfl
  next =>
    have sum : nearest (units + 2 * quarter : Nat) < one := by
      rw [power] at small ⊢
      rw [unit]
      exact nearest_add_half_small representable small last
    rw [if_neg (mt greatest.1 last), @floorUnits_positive _ 0 (by omega) (by omega)]
    rfl

theorem floorUnits_add_half : floorUnits false (nearest (units + 2 * quarter : Nat)) =
    floorUnits false (units + 2 * quarter) + overshoot false units := by
  by_cases large : 2 ^ 53 * one <= units
  next => exact add_half_large representable large
  by_cases middle : 2 ^ 52 * one <= units
  next =>
    obtain ⟨n, same, least⟩ := exists_integer representable middle
    rw [same] at large ⊢
    exact add_half_middle least (lt_of_not_ge fun more => large (Nat.mul_le_mul_right one more))
  by_cases half : 2 * quarter <= units
  next => exact add_half_small representable (not_le.1 middle) half
  next => exact add_half_tiny representable (not_le.1 half)

theorem floorUnits_sub_half : floorUnits true (nearest (units - 2 * quarter : Nat)) =
    floorUnits true (units - 2 * quarter) + overshoot true units := by
  by_cases large : 2 ^ 53 * one <= units
  next => exact sub_half_large representable large
  by_cases middle : 2 ^ 52 * one <= units
  next =>
    obtain ⟨n, same, least⟩ := exists_integer representable middle
    rw [same] at large ⊢
    exact sub_half_middle least (lt_of_not_ge fun more => large (Nat.mul_le_mul_right one more))
  next => exact sub_half_small representable (not_le.1 middle)

end Added

section Doubles

theorem integer?_of_whole (same : exactly x = .finite negative (n * one)) :
    integer? x = some (if negative then -(n : Int) else n) := by
  unfold integer?
  rw [same]
  dsimp only
  rw [if_pos (Nat.mul_mod_left n one)]
  cases negative
  next => rw [(floorUnits_integer n).1, if_neg (by decide)]
  next => rw [(floorUnits_integer n).2, if_pos rfl]

theorem exactly_floor (finite : isFinite x = true) : exists value, floor? x = some value ∧
    exactly (floor x) = .finite (decide (value < 0)) (value.natAbs * one) := by
  obtain ⟨value, found, below⟩ := floor?_below finite
  obtain ⟨negative, units, same⟩ := isFinite_eq_true.1 finite
  have cut : floorUnits negative units = value := by
    rw [floor?, same] at found
    exact Option.some.inj found
  have representable : Representable (value.natAbs * one) := by
    by_cases large : 2 ^ 52 * one <= units
    next =>
      obtain ⟨representable, _⟩ := exactly_units same
      obtain ⟨n, whole, _⟩ := exists_integer representable large
      rw [whole] at representable cut
      have magnitude : value.natAbs = n := by
        rw [← cut]
        cases negative
        next => rw [(floorUnits_integer n).1, Int.natAbs_natCast]
        next => rw [(floorUnits_integer n).2, Int.natAbs_neg, Int.natAbs_natCast]
      rwa [magnitude]
    next =>
      have most := natAbs_floorUnits_le negative units
      have whole : units / one < 2 ^ 52 := (Nat.div_lt_iff_lt_mul (Nat.cast_pos.1 one_pos)).2 (not_le.1 large)
      rw [cut] at most
      exact (representable_integer (by omega)).1
  have own : nearest (value.natAbs * one) = value.natAbs * one := by
    rw [← Nat.cast_mul, nearest_natCast representable]
  have double := exactly_ofInt_below below
  rw [own] at double
  exact ⟨value, found, by rw [floor, found]; exact double⟩

theorem integer?_floor (finite : isFinite x = true) : integer? (floor x) = floor? x := by
  obtain ⟨value, found, same⟩ := exactly_floor finite
  rw [integer?_of_whole same, found, Option.some.injEq]
  by_cases minus : value < 0
  next =>
    rw [if_pos (decide_eq_true minus)]
    omega
  next =>
    rw [if_neg (by simpa using minus)]
    omega

def roundedExactly (negative : Bool) (units : Nat) : Int :=
  ⌊(signed negative units : ℚ) / one + 1 / 2⌋

theorem roundedExactly_eq (negative : Bool) (units : Nat) :
    roundedExactly negative units = (signed negative units + (2 * quarter : Nat)) / one := by
  have positive := one_pos
  have half : ((2 * quarter : Nat) : ℚ) / one = 1 / 2 := by
    have unit : (one : ℚ) = 2 * (2 * quarter : Nat) := by
      rw [one_quarters]
      push_cast
      ring
    rw [div_eq_div_iff positive.ne' (by norm_num), unit]
    ring
  have sum : (signed negative units : ℚ) / one + 1 / 2 =
      ((signed negative units + (2 * quarter : Nat) : Int) : ℚ) / one := by
    rw [← half]
    push_cast
    ring
  rw [roundedExactly, sum]
  exact Rat.floor_intCast_div_natCast _ _

theorem floorUnits_false (units : Nat) : floorUnits false units = (units : Int) / one := by
  rw [floorUnits, if_neg (by decide)]

theorem floorUnits_true (units : Nat) : floorUnits true units = -(units : Int) / one := by
  rw [floorUnits, if_pos rfl]

theorem floorUnits_rest (least : units <= 2 * quarter) : floorUnits false (nearest (2 * quarter - units : Nat)) = 0 ∧
    floorUnits false (2 * quarter - units) = 0 := by
  have quarters := one_quarters
  have some := quarter_pos
  have half : Representable (2 * quarter) := by
    have own := (@representable_halves 1 (by decide)).1
    rwa [Nat.one_mul] at own
  have most := nearest_le half (Nat.cast_nonneg (2 * quarter - units)) (Nat.cast_le.2 (Nat.sub_le _ _))
  exact ⟨@floorUnits_positive _ 0 (by omega) (by omega), @floorUnits_positive _ 0 (by omega) (by omega)⟩

theorem floorUnits_sum (representable : Representable units)
    (some : signed negative units + signed false (2 * quarter) ≠ 0) :
    floorUnits (decide (signed negative units + signed false (2 * quarter) < 0))
        (nearest (signed negative units + signed false (2 * quarter)).natAbs) =
      (signed negative units + (2 * quarter : Nat)) / one + overshoot negative units := by
  have half : signed false (2 * quarter) = (2 * quarter : Nat) := rfl
  rw [half] at some ⊢
  cases negative with
  | false =>
    have total : signed false units + (2 * quarter : Nat) = (units + 2 * quarter : Nat) := rfl
    rw [total, decide_eq_false (by omega), Int.natAbs_natCast, floorUnits_add_half representable, floorUnits_false]
  | true =>
    by_cases least : units <= 2 * quarter
    next =>
      have total : signed true units + (2 * quarter : Nat) = (2 * quarter - units : Nat) := by
        rw [signed, if_pos rfl]
        omega
      obtain ⟨rounded, rest⟩ := floorUnits_rest least
      have small : units < 2 ^ 52 * one := by
        have quarters := one_quarters
        have positive := quarter_pos
        omega
      rw [total, decide_eq_false (by omega), Int.natAbs_natCast, rounded, ← floorUnits_false, rest,
        overshoot_small small (.inl rfl), Int.add_zero]
    next =>
      have total : signed true units + (2 * quarter : Nat) = -(units - 2 * quarter : Nat) := by
        rw [signed, if_pos rfl]
        omega
      rw [total, decide_eq_true (by omega), Int.natAbs_neg, Int.natAbs_natCast, floorUnits_sub_half representable,
        floorUnits_true]

theorem floor?_add_half (same : exactly x = .finite negative units) :
    floor? (x + 0.5) = some (roundedExactly negative units + overshoot negative units) := by
  obtain ⟨representable, _⟩ := exactly_units same
  have quarters := one_quarters
  have some := quarter_pos
  have unit : (0 : Int) < one := by exact_mod_cast Nat.cast_pos.1 one_pos
  rw [roundedExactly_eq]
  by_cases none : signed negative units + (2 * quarter : Nat) = 0
  next =>
    obtain ⟨minus, half⟩ := eq_of_sum_eq_zero (by omega) none
    rw [minus, half] at same
    obtain rfl : x = -0.5 := eq_of_exactly same (exactly_neg exactly_half)
    have cut : floor? (-0.5 + 0.5) = Option.some 0 := by decide +kernel
    rw [cut, none, minus, half, overshoot_small (by omega) (.inl rfl), Int.zero_ediv, Int.add_zero]
  next =>
    have finite := isFinite_add_half (isFinite_eq_true.2 ⟨_, _, same⟩)
    have sum := exactly_nearest finite (exactly_add same exactly_half none)
    rw [floor?, sum]
    exact congrArg Option.some (floorUnits_sum representable none)

end Doubles

end SpokenArithmetic.Arithmetic
