import Mathlib.Algebra.Order.Field.Power
import SpokenArithmetic.Proofs.Arithmetic.Millionths
import SpokenArithmetic.Proofs.Printing.Entered

set_option autoImplicit false

namespace SpokenArithmetic.Evaluation

open Arithmetic Number Text
open Phrase (dropTrailingZeros_append ofDigits_zeros trailingZeros)

variable {x : Float} {negative : Bool} {units count : Nat}

section Trimmed

theorem dropTrailingZeros_last (digits : List Char) : (dropTrailingZeros digits).getLast? ≠ some '0' := by
  intro last
  unfold dropTrailingZeros at last
  rw [List.getLast?_reverse] at last
  have stops := List.head?_dropWhile_not (· == '0') digits.reverse
  rw [last] at stops
  simp at stops

theorem dropTrailingZeros_length (digits : List Char) : (dropTrailingZeros digits).length <= digits.length := by
  have parts := congrArg List.length (dropTrailingZeros_append digits)
  rw [List.length_append] at parts
  omega

theorem dropTrailingZeros_padded (width value : Nat) :
    dropTrailingZeros (paddedDigits width value) = [] ↔ value = 0 := by
  constructor
  next =>
    intro none
    have parts := dropTrailingZeros_append (paddedDigits width value)
    rw [none, List.nil_append] at parts
    rw [← ofDigits_paddedDigits width value, ← parts, ofDigits_zeros]
  next =>
    rintro rfl
    have all : forall c, c ∈ (paddedDigits width 0).reverse -> (c == '0') = true := by
      intro c member
      rcases List.mem_append.1 (List.mem_reverse.1 member) with padding | own
      next => exact beq_iff_eq.2 (List.eq_of_mem_replicate padding)
      next => exact beq_iff_eq.2 (List.mem_singleton.1 own)
    rw [dropTrailingZeros, List.dropWhile_eq_nil_iff.2 all, List.reverse_nil]

/-- So many millionths with a point: one to six digits behind it, of which the last is zero only where there is
no other, for an integer. -/
structure Trimmed (text : List Char) (count : Nat) (fraction : List Char) : Prop where
  parts : text = toDigits (count / 10 ^ 6) ++ '.' :: fraction
  ascii : AsciiDigits fraction
  short : fraction.length <= 6
  last : if count % 10 ^ 6 = 0 then fraction = ['0'] else fraction.getLast? ≠ some '0'

theorem displayFixed_eq (units : Nat) : displayFixed units =
    toDigits (millionths units / 10 ^ 6) ++ '.' :: trimFraction (paddedDigits 6 (millionths units % 10 ^ 6)) := by
  have million : tenTo 6 = 10 ^ 6 := rfl
  have same : millionths units = roundHalfEven (units * 10 ^ 6) one := rfl
  unfold displayFixed fixedPlaces
  dsimp only
  rw [million, same, toDigits]

theorem trimmed_millionths (count : Nat) :
    Trimmed (toDigits (count / 10 ^ 6) ++ '.' :: trimFraction (paddedDigits 6 (count % 10 ^ 6))) count
      (trimFraction (paddedDigits 6 (count % 10 ^ 6))) := by
  have digits := ascii_paddedDigits 6 (count % 10 ^ 6)
  have length := length_paddedDigits (by decide) (Nat.mod_lt count (show 0 < 10 ^ 6 by decide))
  have left := dropTrailingZeros_padded 6 (count % 10 ^ 6)
  have fewer := dropTrailingZeros_length (paddedDigits 6 (count % 10 ^ 6))
  have last := dropTrailingZeros_last (paddedDigits 6 (count % 10 ^ 6))
  have parts := dropTrailingZeros_append (paddedDigits 6 (count % 10 ^ 6))
  unfold trimFraction
  split
  next none => exact ⟨rfl, ⟨by decide, by decide⟩, by decide, by rw [if_pos (left.1 none)]⟩
  next some =>
    refine ⟨rfl, ⟨some, fun c member => digits.all c ?_⟩, by omega, by rwa [if_neg (mt left.2 some)]⟩
    rw [← parts]
    exact List.mem_append_left _ member

theorem trimmed_displayFixed (units : Nat) :
    exists fraction, Trimmed (displayFixed units) (millionths units) fraction := by
  rw [displayFixed_eq]
  exact ⟨_, trimmed_millionths _⟩

theorem displayFixed_near (units : Nat) :
    |(millionths units / 1000000 : ℚ) - units / one| <= 1 / 2000000 ∧
      exists shown, unsignedDecimal? (displayFixed units) = some shown ∧
        exactly shown = nearestExact false (stepped (millionths units)) := by
  constructor
  next =>
    have near := isHalfEven_millionths units
    rw [mul_div_right_comm] at near
    generalize (units : ℚ) / one = value at near ⊢
    have low := near.low
    have high := near.high
    rw [abs_le]
    constructor <;> linarith
  next =>
    obtain ⟨mantissa, exponent, literal, value⟩ := standsFor_displayFixed units
    refine ⟨_, literal.read, ?_⟩
    rw [exactly_ofDecimal, value, stepped]
    rfl

end Trimmed

section Scaled

theorem length_quotient {value unit : Nat} (positive : 0 < unit) (least : unit <= value) :
    10 ^ (toDigits (value / unit)).length * unit <= 10 * value ∧
      value < 10 ^ (toDigits (value / unit)).length * unit := by
  have some : 0 < value / unit := Nat.div_pos least positive
  constructor
  next =>
    have leading := Nat.mul_le_mul_right unit (pow_length_le some)
    rw [Nat.mul_assoc] at leading
    exact leading.trans (Nat.mul_le_mul_left 10 (Nat.div_mul_le_self value unit))
  next => exact (Nat.div_lt_iff_lt_mul positive).1 (lt_pow_length (value / unit))

theorem leadingPower_bounds (some : 0 < units) :
    (10 : ℚ) ^ leadingPower units <= units / one ∧ units / one < (10 : ℚ) ^ (leadingPower units + 1) := by
  have positive := one_pos
  have enough : one <= units * tenTo 330 := by
    have powers : one <= tenTo 330 := by decide +kernel
    exact powers.trans (Nat.le_mul_of_pos_left _ some)
  obtain ⟨low, high⟩ := length_quotient (Nat.cast_pos.1 positive) enough
  have power : (tenTo 330 : ℚ) = 10 ^ 330 := cast_tenTo 330
  have leading : leadingPower units = ((toDigits (units * tenTo 330 / one)).length : Int) - 331 := rfl
  rw [leading]
  generalize (toDigits (units * tenTo 330 / one)).length = length at low high ⊢
  rw [← @Nat.cast_le ℚ] at low
  rw [← @Nat.cast_lt ℚ] at high
  push_cast at low high
  rw [power] at low high
  have next : (length : Int) - 331 + 1 = length - 330 := by omega
  have ten : (10 : ℚ) ^ 331 = 10 * 10 ^ 330 := pow_succ' 10 330
  rw [next, zpow_sub₀ (by norm_num), zpow_sub₀ (by norm_num), zpow_natCast, zpow_ofNat, zpow_ofNat, ten]
  have scale : (0 : ℚ) < 10 ^ 330 := by positivity
  generalize (10 : ℚ) ^ 330 = places at scale low high ⊢
  generalize (one : ℚ) = unit at positive low high ⊢
  constructor
  next =>
    rw [le_div_iff₀ positive, div_mul_eq_mul_div, div_le_iff₀ (by positivity)]
    linarith
  next => rwa [div_lt_iff₀ positive, div_mul_eq_mul_div, lt_div_iff₀ scale]

theorem scientific_eq (units : Nat) : exists count, IsHalfEven (units / one / 10 ^ (leadingPower units - 4)) count ∧
    scientific 4 units = ((toDigits count).take 5, leadingPower units + ((toDigits count).length - 5)) := by
  have unit : 0 < one := Nat.cast_pos.1 one_pos
  have tens (places : Nat) : 0 < tenTo places := Nat.pow_pos (by decide)
  unfold scientific
  dsimp only
  have four : leadingPower units - (4 : Nat) = leadingPower units - 4 := rfl
  rw [four]
  generalize leadingPower units = leading
  cases step : leading - 4 with
  | ofNat up =>
    refine ⟨_, ?_, rfl⟩
    have near := roundHalfEven_isHalfEven units (Nat.mul_pos unit (tens up))
    rwa [Nat.cast_mul, cast_tenTo, ← div_div] at near
  | negSucc down =>
    refine ⟨_, ?_, rfl⟩
    have near := roundHalfEven_isHalfEven (units * tenTo (down + 1)) unit
    rw [Nat.cast_mul, cast_tenTo, mul_div_right_comm] at near
    rwa [zpow_negSucc, div_inv_eq_mul]

theorem five_digits {value step : ℚ} (positive : 0 < step) (near : IsHalfEven (value / step) count)
    (least : 10 ^ 4 * step <= value) (most : value < 10 ^ 5 * step) :
    10 ^ 4 <= count ∧ count <= 10 ^ 5 ∧ |count * step - value| <= step / 2 := by
  refine ⟨(isHalfEven_natCast (10 ^ 4)).mono near ?_, near.mono (isHalfEven_natCast (10 ^ 5)) ?_, ?_⟩
  next =>
    rw [le_div_iff₀ positive]
    exact_mod_cast least
  next =>
    rw [div_le_iff₀ positive]
    exact_mod_cast most.le
  next =>
    have low := (div_le_iff₀ positive).1 near.low
    have high := (le_div_iff₀ positive).1 near.high
    rw [abs_le]
    constructor <;> linarith

theorem scientific_five (some : 0 < units) : exists (mantissa : Nat) (exponent : Int),
    scientific 4 units = (toDigits mantissa, exponent) ∧ 10 ^ 4 <= mantissa ∧ mantissa < 10 ^ 5 ∧
      (exponent = leadingPower units ∨ exponent = leadingPower units + 1) ∧
      |(mantissa : ℚ) * 10 ^ (exponent - 4) - units / one| <= 10 ^ (exponent - 4) / 2 := by
  obtain ⟨low, high⟩ := leadingPower_bounds some
  obtain ⟨count, near, written⟩ := scientific_eq units
  rw [written]
  generalize leadingPower units = leading at low high near ⊢
  have step : (0 : ℚ) < 10 ^ (leading - 4) := by positivity
  have scale (places : Nat) : (10 : ℚ) ^ (leading - 4 + places) = 10 ^ places * 10 ^ (leading - 4) := by
    rw [zpow_add₀ (by norm_num), zpow_natCast, mul_comm]
  have four : leading = leading - 4 + (4 : Nat) := by omega
  have five : leading + 1 = leading - 4 + (5 : Nat) := by omega
  have next : leading + 1 - 4 = leading - 4 + (1 : Nat) := by omega
  have least := ((scale 4).symm.trans (congrArg (fun exponent : Int => (10 : ℚ) ^ exponent) four.symm)).trans_le low
  have most := high.trans_eq ((congrArg (fun exponent : Int => (10 : ℚ) ^ exponent) five).trans (scale 5))
  obtain ⟨countLeast, countMost, error⟩ := five_digits step near least most
  rcases countMost.lt_or_eq with small | carried
  next =>
    have length : (toDigits count).length = 5 := by
      have most := (length_toDigits_le (by decide)).2 small
      have least := mt (@length_toDigits_le count 4 (by decide)).1 (by omega)
      omega
    refine ⟨count, leading, ?_, countLeast, small, .inl rfl, error⟩
    rw [List.take_of_length_le length.le, length]
    simp
  -- Rounded to a power of ten, the digits are one more, of which the last is not written.
  next =>
    refine ⟨10 ^ 4, leading + 1, ?_, le_rfl, by decide, .inr rfl, ?_⟩
    next =>
      have digits : toDigits (10 ^ 5) = toDigits (10 ^ 4) ++ ['0'] := by decide
      have length : (toDigits (10 ^ 4)).length = 5 := by decide
      rw [carried, digits, List.take_left' length, List.length_append, length]
      rfl
    next =>
      rw [next, scale 1]
      rw [carried] at error
      push_cast at error ⊢
      rw [abs_le] at error ⊢
      constructor <;> linarith

/-- One digit, a point, four digits and a power of ten with a sign. -/
def Scaled (text : List Char) (mantissa : Nat) (exponent : Int) : Prop :=
  exists first fraction, toDigits mantissa = first :: fraction ∧ fraction.length = 4 ∧
    text = first :: '.' :: fraction ++ 'e' :: (if exponent < 0 then '-' else '+') :: toDigits exponent.natAbs

theorem paddedDigits_one (value : Nat) : paddedDigits 1 value = toDigits value := by
  have some := length_toDigits_pos value
  have none : 1 - (Nat.toDigits 10 value).length = 0 := Nat.sub_eq_zero_of_le some
  rw [paddedDigits, none]
  rfl

theorem scaled_displayExponential (some : 0 < units) : exists (mantissa : Nat) (exponent : Int),
    Scaled (displayExponential units) mantissa exponent ∧
      (exponent = leadingPower units ∨ exponent = leadingPower units + 1) ∧
      |(mantissa : ℚ) * 10 ^ (exponent - 4) - units / one| <= 10 ^ (exponent - 4) / 2 := by
  obtain ⟨mantissa, exponent, written, least, most, leading, error⟩ := scientific_five some
  refine ⟨mantissa, exponent, ?_, leading, error⟩
  have long := mt (@length_toDigits_le mantissa 4 (by decide)).1 (by omega)
  have short := (@length_toDigits_le mantissa 5 (by decide)).2 most
  cases digits : toDigits mantissa with
  | nil => exact absurd digits Nat.toDigits_ne_nil
  | cons first fraction =>
    rw [digits, List.length_cons] at long short
    refine ⟨first, fraction, digits, by omega, ?_⟩
    unfold displayExponential
    rw [written, digits]
    dsimp only
    rw [writeExponent, paddedDigits_one]
    rfl

theorem leadingPower_large (large : 1000000 * one <= units) : 6 <= leadingPower units := by
  have positive := one_pos
  obtain ⟨_, high⟩ := leadingPower_bounds ((Nat.mul_pos (by decide) (Nat.cast_pos.1 positive)).trans_le large)
  have cast : ((1000000 * one : Nat) : ℚ) <= units := Nat.cast_le.2 large
  have least : (10 : ℚ) ^ (6 : Int) <= units / one := by
    rw [le_div_iff₀ positive]
    rw [Nat.cast_mul] at cast
    generalize (one : ℚ) = unit at cast ⊢
    norm_num at cast ⊢
    exact cast
  have order := (zpow_lt_zpow_iff_right₀ (by norm_num)).1 (least.trans_lt high)
  omega

theorem leadingPower_small (some : 0 < units) (small : 10000 * units < one) : leadingPower units < -4 := by
  have positive := one_pos
  obtain ⟨low, _⟩ := leadingPower_bounds some
  have cast : ((10000 * units : Nat) : ℚ) < one := Nat.cast_lt.2 small
  have below : units / one < (10 : ℚ) ^ (-4 : Int) := by
    rw [div_lt_iff₀ positive]
    rw [Nat.cast_mul] at cast
    generalize (one : ℚ) = unit at cast ⊢
    norm_num at cast ⊢
    linarith
  exact (zpow_lt_zpow_iff_right₀ (by norm_num)).1 (low.trans_lt below)

theorem displayExponential_power (some : 0 < units) (beyond : 1000000 * one <= units ∨ 10000 * units < one) :
    exists (mantissa : Nat) (exponent : Int), Scaled (displayExponential units) mantissa exponent ∧
      (0 < exponent ↔ 1000000 * one <= units) ∧ exponent ≠ 0 ∧
        |(mantissa : ℚ) * 10 ^ (exponent - 4) - units / one| <= 10 ^ (exponent - 4) / 2 := by
  obtain ⟨mantissa, exponent, scaled, leading, error⟩ := scaled_displayExponential some
  refine ⟨mantissa, exponent, scaled, ?_⟩
  by_cases large : 1000000 * one <= units
  next =>
    have least := leadingPower_large large
    exact ⟨⟨fun _ => large, fun _ => by omega⟩, by omega, error⟩
  next =>
    have most := leadingPower_small some (beyond.resolve_left large)
    exact ⟨⟨fun _ => by omega, fun large' => absurd large' large⟩, by omega, error⟩

end Scaled

section Bounds

variable (same : exactly x = .finite negative units)
include same

theorem exponentialFrom_le : exponentialFrom <= x.abs ↔ 1000000 * one <= units :=
  le_iff exactly_exponentialFrom (exactly_abs same)

-- The double for the lower bound is above it, but there is no double between them.
theorem lt_exponentialBelow : x.abs < exponentialBelow ↔ 10000 * units < one := by
  rw [lt_iff (exactly_abs same) exactly_exponentialBelow]
  constructor
  next =>
    intro below
    by_contra least
    have bound : stepped 100 <= units := by
      have cast : (one : ℚ) <= 10000 * units := by exact_mod_cast not_lt.1 least
      rw [stepped]
      push_cast
      linarith
    have order := nearest_mono (stepped_nonneg 100) bound
    rw [nearest_natCast (exactly_units same).1] at order
    omega
  next =>
    intro below
    have shown : exactly exponentialBelow = .finite false (7378697629483821 * twoTo 1008) := by decide +kernel
    have above : one <= 10000 * (7378697629483821 * twoTo 1008) := by decide +kernel
    have units := (Exact.finite.inj (exactly_exponentialBelow.symm.trans shown)).2
    rw [units]
    exact lt_of_mul_lt_mul_left (below.trans_le above) (by decide)

end Bounds

section Forms

variable (same : exactly x = .finite negative units)
include same

theorem display_whole (whole : units % one = 0) :
    (display x).toList = Number.sign (negative && decide (0 < units)) ++ toDigits (units / one) := by
  rcases Nat.eq_zero_or_pos units with none | some
  next =>
    subst none
    have floored : floorUnits negative 0 = 0 := by
      rw [floorUnits]
      cases negative <;> exact Int.zero_ediv _
    unfold display
    rw [same]
    dsimp only
    rw [if_pos (Nat.zero_mod one), floored, Nat.zero_div, decide_eq_false (Nat.lt_irrefl 0), Bool.and_false]
    decide
  next =>
    have parts : units / one * one = units := Nat.div_mul_cancel (Nat.dvd_of_mod_eq_zero whole)
    rw [decide_eq_true some, Bool.and_true]
    refine display_integer (same.trans (by rw [parts])) fun _ => ?_
    rw [← parts] at some
    exact Nat.pos_of_mul_pos_right some

theorem display_part (part : units % one ≠ 0) : (display x).toList = Number.sign negative ++
    if 1000000 * one <= units ∨ 10000 * units < one then displayExponential units else displayFixed units := by
  unfold display
  rw [same]
  dsimp only
  rw [if_neg part, String.toList_ofList]
  refine congrArg (Number.sign negative ++ ·) (if_congr ?_ rfl rfl)
  rw [Bool.or_eq_true, decide_eq_true_iff, decide_eq_true_iff, exponentialFrom_le same, lt_exponentialBelow same]

end Forms

theorem displayInteger_eq {value : Int} (short : value.natAbs < 10 ^ maxDigits) :
    exists text, displayInteger value = .ok text ∧
      text.toList = Number.sign (decide (value < 0)) ++ toDigits value.natAbs := by
  refine ⟨toString value, ?_, ?_⟩
  next =>
    have none := checkWriting_none short (Nat.le_refl maxDigits)
    unfold displayInteger
    rw [none]
  next =>
    have written := @toString_signed (decide (value < 0)) value.natAbs fun negative => by
      have minus := of_decide_eq_true negative
      omega
    rwa [signed_natAbs] at written

/-- Integers are shown with plain digits. Of other doubles those from 10^6 on and below 10^-4 have five digits
and a power of ten, and the others have one to six places behind a point: the value in millionths, rounded,
which is at most half a millionth away. The last place is no zero, unless there are no millionths: then it is
the only one. -/
theorem display_forms (same : exactly x = .finite negative units) {value : Int}
    (short : value.natAbs < 10 ^ maxDigits) :
    (units % one = 0 ->
      (display x).toList = Number.sign (negative && decide (0 < units)) ++ toDigits (units / one)) ∧
    (units % one ≠ 0 -> exists text, (display x).toList = Number.sign negative ++ text ∧
      (1000000 * one <= units ∨ 10000 * units < one -> exists (mantissa : Nat) (exponent : Int),
        Scaled text mantissa exponent ∧ (0 < exponent ↔ 1000000 * one <= units) ∧ exponent ≠ 0 ∧
          |(mantissa : ℚ) * 10 ^ (exponent - 4) - units / one| <= 10 ^ (exponent - 4) / 2) ∧
      (¬ (1000000 * one <= units ∨ 10000 * units < one) ->
        (exists fraction, Trimmed text (millionths units) fraction) ∧
          |(millionths units / 1000000 : ℚ) - units / one| <= 1 / 2000000 ∧
          exists shown, unsignedDecimal? text = some shown ∧
            exactly shown = nearestExact false (stepped (millionths units)))) ∧
    exists text, displayInteger value = .ok text ∧
      text.toList = Number.sign (decide (value < 0)) ++ toDigits value.natAbs := by
  refine ⟨display_whole same, fun part => ⟨_, display_part same part, fun beyond => ?_, fun within => ?_⟩,
    displayInteger_eq short⟩
  next =>
    have some : 0 < units := Nat.pos_of_ne_zero fun none => part (by rw [none, Nat.zero_mod])
    rw [if_pos beyond]
    exact displayExponential_power some beyond
  next =>
    rw [if_neg within]
    exact ⟨trimmed_displayFixed units, displayFixed_near units⟩

theorem display_forms_point :
    (display 4.0).toList = ['4'] ∧ (display 1.00000001).toList = "1.0".toList ∧
      (exists mantissa exponent, Scaled (display 1234567.5).toList mantissa exponent ∧ 0 < exponent) ∧
      exists text, displayInteger (-12) = .ok text ∧ text.toList = "-12".toList := by
  have four : exactly 4.0 = .finite false (4 * one) := by decide +kernel
  have near : exactly 1.00000001 = .finite false (1125899918101623 * twoTo 1024) := by decide +kernel
  have large : exactly 1234567.5 = .finite false (2469135 * twoTo 1073) := by decide +kernel
  have short : (-12 : Int).natAbs < 10 ^ maxDigits := by decide +kernel
  obtain ⟨whole, _, text, shown, digits⟩ := display_forms four short
  refine ⟨(whole (by decide +kernel)).trans (by decide +kernel), ?_, ?_, text, shown, digits.trans (by decide)⟩
  next =>
    obtain ⟨_, part, _⟩ := display_forms near short
    obtain ⟨text, shown, _, within⟩ := part (by decide +kernel)
    obtain ⟨⟨fraction, trimmed⟩, _⟩ := within (by decide +kernel)
    have count : millionths (1125899918101623 * twoTo 1024) = 1000000 := by decide +kernel
    rw [count] at trimmed
    have last := trimmed.last
    rw [if_pos (by decide)] at last
    rw [shown, trimmed.parts, last]
    decide
  next =>
    obtain ⟨_, part, _⟩ := display_forms large short
    obtain ⟨text, shown, beyond, _⟩ := part (by decide +kernel)
    obtain ⟨mantissa, exponent, scaled, positive, _⟩ := beyond (.inl (by decide +kernel))
    rw [shown]
    exact ⟨mantissa, exponent, scaled, positive.2 (by decide +kernel)⟩

end SpokenArithmetic.Evaluation
