import SpokenArithmetic.Proofs.Arithmetic.Nearest

set_option autoImplicit false

namespace SpokenArithmetic.Number

variable {y : ℚ} {m n total places : Nat}

def Floors (places total n : Nat) : Prop :=
  4 * n * 2 ^ places <= total ∧ total < 4 * (n + 1) * 2 ^ places

theorem floors_self (n places : Nat) : Floors places (4 * n * 2 ^ places) n :=
  ⟨le_rfl, Nat.mul_lt_mul_of_pos_right (by omega) (Nat.two_pow_pos places)⟩

theorem representable_halves_pow (small : n <= 2 ^ 53) (places : Nat) : Representable (2 * n * 2 ^ places) := by
  have same : 2 * n * 2 ^ places = n * 2 ^ (places + 1) := by ring
  rw [same]
  exact representable_mul_pow small _

theorem representable_integers_pow (small : n <= 2 ^ 53) (places : Nat) : Representable (4 * n * 2 ^ places) := by
  have same : 4 * n * 2 ^ places = n * 2 ^ (places + 2) := by ring
  rw [same]
  exact representable_mul_pow small _

section Below

theorem nearest_quarter_above (least : 2 ^ 51 <= n) (small : n < 2 ^ 52) :
    nearest ((4 * n + 1) * 2 ^ places : Nat) = 4 * n * 2 ^ places := by
  have leastCast : (2 : ℚ) ^ 51 <= n := by exact_mod_cast least
  have mostCast : (n : ℚ) + 1 <= 2 ^ 52 := by exact_mod_cast small
  have positive : (0 : ℚ) < 2 ^ places := by positivity
  have double : (2 : ℚ) ^ (places + 1) = 2 * 2 ^ places := pow_succ' 2 places
  have tie := @nearest_tie_at ((4 * n + 1) * 2 ^ places : Nat) (2 * n) (places + 1) (by omega)
    (by push_cast; rw [double]; nlinarith) (by push_cast; rw [double]; nlinarith)
    (.inl (by push_cast; rw [double]; ring))
  rw [tie]
  ring

theorem floors_below (small : n < 2 ^ 52) (low : ((4 * n - 2) * 2 ^ places : Nat) <= y)
    (high : y <= ((4 * n + 1) * 2 ^ places : Nat)) : Floors places (nearest (nearest y + 2 * 2 ^ places : Nat)) n := by
  have positive := Nat.two_pow_pos places
  have nonneg : 0 <= y := le_trans (Nat.cast_nonneg _) low
  have least : (4 * n - 2) * 2 ^ places <= nearest y := by
    have halves : 4 * n - 2 = 2 * (2 * n - 1) := by omega
    exact le_nearest (by rw [halves]; exact representable_halves_pow (by omega) _) low
  have sumLeast : 4 * n * 2 ^ places <= nearest y + 2 * 2 ^ places := by
    have step := Nat.mul_le_mul_right (2 ^ places) (show 4 * n <= 4 * n - 2 + 2 by omega)
    rw [Nat.add_mul] at step
    omega
  have first := le_nearest (representable_integers_pow (show n <= 2 ^ 53 by omega) places)
    (y := (nearest y + 2 * 2 ^ places : Nat)) (by exact_mod_cast sumLeast)
  have room : (4 * n + 3) * 2 ^ places < 4 * (n + 1) * 2 ^ places := Nat.mul_lt_mul_of_pos_right (by omega) positive
  refine ⟨first, lt_of_le_of_lt ?_ room⟩
  by_cases fine : n < 2 ^ 51
  next =>
    have most := nearest_le (representable_mul_pow (show 4 * n + 1 <= 2 ^ 53 by omega) places) nonneg high
    have sum : nearest y + 2 * 2 ^ places <= (4 * n + 3) * 2 ^ places := by
      rw [Nat.add_mul] at most ⊢
      omega
    exact nearest_le (representable_mul_pow (by omega) places) (Nat.cast_nonneg _) (by exact_mod_cast sum)
  next =>
    have most : nearest y <= 4 * n * 2 ^ places := by
      rw [← nearest_quarter_above (not_lt.1 fine) small]
      exact nearest_mono nonneg high
    have sum : nearest y + 2 * 2 ^ places <= 2 * (2 * n + 1) * 2 ^ places := by
      have parts : 2 * (2 * n + 1) * 2 ^ places = 4 * n * 2 ^ places + 2 * 2 ^ places := by ring
      omega
    have last := nearest_le (representable_halves_pow (show 2 * n + 1 <= 2 ^ 53 by omega) places) (Nat.cast_nonneg _)
      (by exact_mod_cast sum)
    exact last.trans (Nat.mul_le_mul_right _ (by omega))

theorem floors_next (least : 2 ^ 51 <= n) (small : n < 2 ^ 52) (low : ((4 * n + 1) * 2 ^ places : Nat) < y)
    (high : y < ((4 * n + 3) * 2 ^ places : Nat)) :
    Floors places (nearest (nearest y + 2 * 2 ^ places : Nat)) (n + 1) := by
  have leastCast : (2 : ℚ) ^ 51 <= n := by exact_mod_cast least
  have mostCast : (n : ℚ) + 1 <= 2 ^ 52 := by exact_mod_cast small
  have positive : (0 : ℚ) < 2 ^ (places + 1) := by positivity
  have double : (2 : ℚ) ^ places = 2 ^ (places + 1) / 2 := by
    rw [pow_succ]
    ring
  push_cast [double] at low high
  have leading : halfEven (y / 2 ^ (places + 1)) = 2 * n + 1 := by
    refine halfEven_of_near ?_ ?_ (div_nonneg (by nlinarith) positive.le)
    next =>
      rw [div_lt_iff₀ positive]
      push_cast
      linarith
    next =>
      rw [lt_div_iff₀ positive]
      push_cast
      linarith
  have value : nearest y + 2 * 2 ^ places = 4 * (n + 1) * 2 ^ places := by
    rw [@nearest_at y (places + 1) (by nlinarith) (by nlinarith), leading, Nat.pow_succ]
    ring
  rw [value, nearest_natCast (representable_integers_pow (by omega) places)]
  exact floors_self (n + 1) places

end Below

section Above

variable (least : 2 ^ 52 <= n) (small : n < 2 ^ 53)
include least small

theorem nearest_half_above :
    nearest ((4 * n + 2) * 2 ^ places : Nat) = 4 * (n + n % 2) * 2 ^ places := by
  have leastCast : (2 : ℚ) ^ 52 <= n := by exact_mod_cast least
  have mostCast : (n : ℚ) + 1 <= 2 ^ 53 := by exact_mod_cast small
  have positive : (0 : ℚ) < 2 ^ places := by positivity
  have four : (2 : ℚ) ^ (places + 2) = 4 * 2 ^ places := by ring
  have tie := @nearest_tie_at ((4 * n + 2) * 2 ^ places : Nat) (n + n % 2) (places + 2) (by omega)
    (by push_cast; rw [four]; nlinarith) (by push_cast; rw [four]; nlinarith)
    (by
      rw [four]
      rcases Nat.mod_two_eq_zero_or_one n with even | odd
      next =>
        rw [even]
        exact .inl (by push_cast; ring)
      next =>
        rw [odd]
        exact .inr (by push_cast; ring))
  rw [tie, Nat.pow_add]
  ring

theorem floors_integer : Floors places (nearest (4 * n * 2 ^ places + 2 * 2 ^ places : Nat)) (n + n % 2) := by
  rw [← Nat.add_mul, nearest_half_above least small]
  exact floors_self _ _

theorem le_sum_below (even : n % 2 = 0) (low : ((4 * n - 2) * 2 ^ places : Nat) <= y) :
    4 * n * 2 ^ places <= nearest y + 2 * 2 ^ places := by
  have step := Nat.mul_le_mul_right (2 ^ places) (show 4 * n <= 4 * n - 2 + 2 by omega)
  rw [Nat.add_mul] at step
  by_cases first : n = 2 ^ 52
  next =>
    have halves : 4 * n - 2 = 2 * (2 * n - 1) := by omega
    have own := le_nearest (by rw [halves]; exact representable_halves_pow (by omega) _) low
    omega
  next =>
    have before := @nearest_half_above (n - 1) places (by omega) (by omega)
    have parts : 4 * (n - 1) + 2 = 4 * n - 2 := by omega
    have next : n - 1 + (n - 1) % 2 = n := by omega
    rw [parts, next] at before
    have mono := nearest_mono (Nat.cast_nonneg _) low
    omega

theorem floors_even (even : n % 2 = 0) (low : ((4 * n - 2) * 2 ^ places : Nat) <= y)
    (high : y <= ((4 * n + 2) * 2 ^ places : Nat)) : Floors places (nearest (nearest y + 2 * 2 ^ places : Nat)) n := by
  have nonneg : 0 <= y := le_trans (Nat.cast_nonneg _) low
  have upper := @nearest_half_above n places least small
  rw [even, Nat.add_zero n] at upper
  have most : nearest y <= 4 * n * 2 ^ places := by
    rw [← upper]
    exact nearest_mono nonneg high
  have first := le_nearest (representable_integers_pow (show n <= 2 ^ 53 by omega) places)
    (y := (nearest y + 2 * 2 ^ places : Nat)) (by exact_mod_cast le_sum_below least small even low)
  have sum : nearest y + 2 * 2 ^ places <= (4 * n + 2) * 2 ^ places := by
    rw [Nat.add_mul]
    omega
  have last := nearest_mono (Nat.cast_nonneg _) (Nat.cast_le.2 sum)
  rw [upper] at last
  exact ⟨first, last.trans_lt (floors_self n places).2⟩

end Above

theorem nearest_integers (low : 2 ^ 52 * 2 ^ (places + 2) <= y) (below : nearest y < 4 * 2 ^ 53 * 2 ^ places) :
    nearest y = 4 * halfEven (y / 2 ^ (places + 2)) * 2 ^ places ∧
      2 ^ 52 <= halfEven (y / 2 ^ (places + 2)) ∧ halfEven (y / 2 ^ (places + 2)) < 2 ^ 53 := by
  have positive := Nat.two_pow_pos places
  have high : y < 2 ^ 53 * 2 ^ (places + 2) := by
    by_contra large
    have limit : ((4 * 2 ^ 53 * 2 ^ places : Nat) : ℚ) <= y := by
      have same : ((4 * 2 ^ 53 * 2 ^ places : Nat) : ℚ) = 2 ^ 53 * 2 ^ (places + 2) := by
        push_cast
        ring
      rw [same]
      exact not_lt.1 large
    exact absurd (le_nearest (representable_integers_pow le_rfl places) limit) (by omega)
  have value : nearest y = 4 * halfEven (y / 2 ^ (places + 2)) * 2 ^ places := by
    rw [nearest_at low high, Nat.pow_add]
    ring
  refine ⟨value, le_halfEven ?_, ?_⟩
  next =>
    rw [le_div_iff₀ (by positivity)]
    exact_mod_cast low
  next =>
    rw [value, Nat.mul_lt_mul_right positive] at below
    omega

section Large

variable {units : Nat}

theorem representable_of_dvd {shift : Nat} (divides : 2 ^ shift ∣ n) (small : n < 2 ^ (53 + shift)) :
    Representable n := by
  obtain ⟨count, rfl⟩ := divides
  rw [Nat.pow_add, Nat.mul_comm] at small
  rw [Nat.mul_comm]
  exact representable_mul_pow (Nat.lt_of_mul_lt_mul_right small).le shift

theorem shiftOf_le_of_lt (small : units < 2 ^ 53 * 2 ^ places) : shiftOf units <= places := by
  by_contra more
  have leading := @shiftOf_le units (places + 1) (by omega) (by omega)
  rw [← Nat.pow_add] at small
  have same : 52 + (places + 1) = 53 + places := by omega
  rw [same] at leading
  omega

theorem exists_count (representable : Representable units) (least : 2 ^ 52 * 2 ^ places <= units) :
    exists count, units = count * 2 ^ places ∧ 2 ^ 52 <= count := by
  rw [← Nat.pow_add] at least
  have shift : 52 + places < 53 + shiftOf units :=
    (Nat.pow_lt_pow_iff_right (by decide)).1 (least.trans_lt (lt_shiftOf units))
  obtain ⟨count, countEq⟩ := (pow_dvd_pow 2 (show places <= shiftOf units by omega)).trans representable
  refine ⟨count, by rw [countEq, Nat.mul_comm], ?_⟩
  rw [countEq, Nat.pow_add, Nat.mul_comm] at least
  exact Nat.le_of_mul_le_mul_left least (Nat.two_pow_pos places)

variable (representable : Representable units) (large : 2 ^ 53 * (4 * 2 ^ places) <= units)
include representable large

theorem exists_leading : exists count shift, units = count * 2 ^ shift ∧ 2 ^ 52 <= count ∧ count < 2 ^ 53 ∧
    places + 3 <= shift := by
  have bound : 2 ^ (52 + (places + 3)) < 2 ^ (53 + shiftOf units) := by
    have four : 2 ^ 53 * (4 * 2 ^ places) = 2 ^ 52 * 2 ^ (places + 3) := by ring
    rw [Nat.pow_add, ← four]
    exact large.trans_lt (lt_shiftOf units)
  have shift := (Nat.pow_lt_pow_iff_right (by decide)).1 bound
  have leading := shiftOf_le (show 0 < shiftOf units by omega) le_rfl
  rw [Nat.pow_add] at leading
  obtain ⟨count, same, least⟩ := exists_count representable leading
  have below := lt_shiftOf units
  rw [Nat.pow_add] at below
  refine ⟨count, shiftOf units, same, least, ?_, by omega⟩
  generalize 2 ^ shiftOf units = step at same below
  rw [same] at below
  exact Nat.lt_of_mul_lt_mul_right below

theorem nearest_add_half : nearest (units + 2 * 2 ^ places : Nat) = units := by
  obtain ⟨count, shift, rfl, least, most, fits⟩ := exists_leading representable large
  have step : (0 : ℚ) < 2 ^ shift := by positivity
  have positive : (0 : ℚ) < 2 ^ places := by positivity
  have part : (2 : ℚ) * 2 ^ places <= 1 / 4 * 2 ^ shift := by
    have power : (2 : ℚ) ^ (places + 3) <= 2 ^ shift := pow_le_pow_right₀ (by norm_num) fits
    have eight : (2 : ℚ) ^ (places + 3) = 8 * 2 ^ places := by ring
    linarith
  have leastCast : (2 : ℚ) ^ 52 <= count := by exact_mod_cast least
  have mostCast : (count : ℚ) + 1 <= 2 ^ 53 := by exact_mod_cast most
  push_cast
  have leading : halfEven ((count * 2 ^ shift + 2 * 2 ^ places) / 2 ^ shift) = count := by
    refine halfEven_of_near ?_ ?_ (by positivity)
    next =>
      rw [div_lt_iff₀ step]
      linarith
    next =>
      rw [lt_div_iff₀ step]
      linarith
  rw [@nearest_at _ shift (by nlinarith) (by nlinarith), leading]

-- In front of a power of two the doubles are closer to each other.
theorem exists_closer : exists count shift, units = count * 2 ^ shift ∧ 2 ^ 52 < count ∧ count <= 2 ^ 53 ∧
    places + 2 <= shift ∧ (shift = places + 2 -> count = 2 ^ 53) := by
  obtain ⟨count, shift, same, least, most, fits⟩ := exists_leading representable large
  by_cases first : count = 2 ^ 52
  next =>
    obtain ⟨closer, rfl⟩ : exists closer, shift = closer + 1 := ⟨shift - 1, by omega⟩
    refine ⟨2 ^ 53, closer, ?_, by decide, le_rfl, by omega, fun _ => rfl⟩
    rw [same, first]
    ring
  next => exact ⟨count, shift, same, by omega, by omega, by omega, fun _ => by omega⟩

theorem nearest_sub_half : nearest (units - 2 * 2 ^ places : Nat) = units := by
  obtain ⟨count, shift, same, least, most, fits, first⟩ := exists_closer representable large
  have step : (0 : ℚ) < 2 ^ shift := by positivity
  have positive : (0 : ℚ) < 2 ^ places := by positivity
  have four : (2 : ℚ) ^ (places + 2) = 4 * 2 ^ places := by ring
  have part : (4 : ℚ) * 2 ^ places <= 2 ^ shift := by
    rw [← four]
    exact pow_le_pow_right₀ (by norm_num) fits
  have leastCast : (2 : ℚ) ^ 52 + 1 <= count := by exact_mod_cast least
  have mostCast : (count : ℚ) <= 2 ^ 53 := by exact_mod_cast most
  have room : 2 * 2 ^ places <= units := le_trans (by omega) large
  rw [Nat.cast_sub room, same]
  push_cast
  have near : IsHalfEven ((count * 2 ^ shift - 2 * 2 ^ places) / 2 ^ shift) count := by
    refine ⟨?_, ?_, fun tie => ?_⟩
    next =>
      rw [div_le_iff₀ step]
      linarith
    next =>
      rw [le_div_iff₀ step]
      linarith
    next =>
      have half : (2 : ℚ) ^ shift = 2 ^ (places + 2) := by
        rw [div_eq_iff step.ne', div_eq_iff step.ne'] at tie
        rcases tie with up | down <;> linarith
      have even := first (pow_right_injective₀ (by norm_num) (by norm_num) half)
      omega
  rw [@nearest_at _ shift (by nlinarith) (by nlinarith), ← near.eq (div_nonneg (by nlinarith) step.le)]

end Large

section Small

variable {units fine : Nat}

theorem nearest_half_le (bounded : n <= 2 ^ 52) (nonneg : 0 <= y) (le : y <= ((4 * n + 2) * 2 ^ places : Nat)) :
    nearest y <= (4 * n + 2) * 2 ^ places := by
  by_cases last : n = 2 ^ 52
  next =>
    have cut := @nearest_half_above n places last.ge (by omega)
    have mono := nearest_mono nonneg le
    rw [cut, show n + n % 2 = n by omega] at mono
    exact mono.trans (Nat.mul_le_mul_right _ (by omega))
  next =>
    have halves : 4 * n + 2 = 2 * (2 * n + 1) := by omega
    rw [halves] at le ⊢
    exact nearest_le (representable_halves_pow (by omega) places) nonneg le

theorem shiftOf_dvd_half (small : units < 2 ^ 52 * (4 * 2 ^ places)) : 2 ^ shiftOf units ∣ 2 * 2 ^ places := by
  have halves : 2 ^ 52 * (4 * 2 ^ places) = 2 ^ 53 * 2 ^ (places + 1) := by ring
  rw [halves] at small
  rw [← Nat.pow_succ']
  exact pow_dvd_pow 2 (shiftOf_le_of_lt small)

variable (representable : Representable units)
include representable

theorem representable_sub_half (small : units < 2 ^ 52 * (4 * 2 ^ places)) :
    Representable (units - 2 * 2 ^ places) :=
  representable_of_dvd (Nat.dvd_sub representable (shiftOf_dvd_half small))
    ((Nat.sub_le _ _).trans_lt (lt_shiftOf units))

theorem representable_add_half {whole : Nat} (some : 0 < whole) (small : units < 2 ^ 52 * (4 * 2 ^ places))
    (least : whole * (4 * 2 ^ places) <= units) (most : units + 2 * 2 ^ places < (whole + 1) * (4 * 2 ^ places)) :
    Representable (units + 2 * 2 ^ places) := by
  have four : 4 * 2 ^ places = 2 ^ (places + 2) := by ring
  have one_le : 4 * 2 ^ places <= units := (Nat.le_mul_of_pos_left _ some).trans least
  have leading := lt_shiftOf units
  have shift : places + 2 < 53 + shiftOf units := by
    rw [four] at one_le
    exact (Nat.pow_lt_pow_iff_right (by decide)).1 (one_le.trans_lt leading)
  obtain ⟨count, countEq⟩ := pow_dvd_pow 2 shift.le
  rw [← four, Nat.mul_comm (4 * 2 ^ places)] at countEq
  have more : whole < count := by
    rw [countEq] at leading
    exact Nat.lt_of_mul_lt_mul_right (least.trans_lt leading)
  have sum : units + 2 * 2 ^ places < 2 ^ (53 + shiftOf units) := by
    rw [countEq]
    exact most.trans_le (Nat.mul_le_mul_right _ more)
  exact representable_of_dvd (Nat.dvd_add representable (shiftOf_dvd_half small)) sum

theorem floors_add_half (least : 2 * 2 ^ places <= units) (small : units < 2 ^ 52 * (4 * 2 ^ places)) :
    Floors places (nearest (units + 2 * 2 ^ places : Nat)) ((units + 2 * 2 ^ places) / (4 * 2 ^ places)) := by
  have positive := Nat.two_pow_pos places
  obtain ⟨whole, wholeEq⟩ : exists whole, (units + 2 * 2 ^ places) / (4 * 2 ^ places) = whole := ⟨_, rfl⟩
  have low : whole * (4 * 2 ^ places) <= units + 2 * 2 ^ places := by
    rw [← wholeEq]
    exact Nat.div_mul_le_self _ _
  have high : units + 2 * 2 ^ places < (whole + 1) * (4 * 2 ^ places) := by
    rw [← wholeEq]
    exact Nat.lt_mul_of_div_lt (Nat.lt_succ_self _) (by omega)
  have some : 0 < whole := by
    by_contra none
    obtain rfl : whole = 0 := by omega
    omega
  have bounded : whole <= 2 ^ 52 := by
    by_contra more
    have large := Nat.mul_le_mul_right (4 * 2 ^ places) (show 2 ^ 52 + 1 <= whole by omega)
    omega
  have integer : 4 * whole * 2 ^ places = whole * (4 * 2 ^ places) := by ring
  have next : 4 * (whole + 1) * 2 ^ places = whole * (4 * 2 ^ places) + 4 * 2 ^ places := by ring
  have halves : (4 * whole + 2) * 2 ^ places = whole * (4 * 2 ^ places) + 2 * 2 ^ places := by ring
  have first := le_nearest (representable_integers_pow (show whole <= 2 ^ 53 by omega) places)
    (y := (units + 2 * 2 ^ places : Nat)) (by rw [integer]; exact_mod_cast low)
  rw [wholeEq]
  refine ⟨first, ?_⟩
  rw [next]
  by_cases below : units < whole * (4 * 2 ^ places)
  next =>
    have most := nearest_half_le bounded (y := (units + 2 * 2 ^ places : Nat)) (Nat.cast_nonneg _)
      (by rw [halves, Nat.cast_le]; exact Nat.add_le_add_right below.le _)
    rw [halves] at most
    exact most.trans_lt (Nat.add_lt_add_left (by omega) _)
  next =>
    rw [nearest_natCast (representable_add_half representable some small (not_lt.1 below) high)]
    rwa [Nat.add_mul, Nat.one_mul] at high

theorem nearest_add_half_small (small : units < 2 ^ 53 * 2 ^ fine) (other : units ≠ (2 ^ 53 - 1) * 2 ^ fine) :
    nearest (units + 2 ^ 53 * 2 ^ fine : Nat) < 2 ^ 54 * 2 ^ fine := by
  have positive := Nat.two_pow_pos fine
  have less : units <= (2 ^ 53 - 2) * 2 ^ fine := by
    by_contra more
    obtain ⟨count, rfl, _⟩ := exists_count representable
      ((Nat.mul_le_mul_right _ (by decide)).trans (not_le.1 more).le : 2 ^ 52 * 2 ^ fine <= units)
    have above := Nat.lt_of_mul_lt_mul_right (not_le.1 more)
    have below := Nat.lt_of_mul_lt_mul_right small
    exact other (congrArg (· * 2 ^ fine) (by omega))
  have double : 2 ^ (fine + 1) = 2 * 2 ^ fine := Nat.pow_succ'
  have sum : units + 2 ^ 53 * 2 ^ fine <= (2 ^ 53 - 1) * 2 ^ (fine + 1) := by omega
  have most := nearest_le (representable_mul_pow (show 2 ^ 53 - 1 <= 2 ^ 53 by decide) (fine + 1)) (Nat.cast_nonneg _)
    (Nat.cast_le.2 sum)
  omega

omit representable in
theorem nearest_add_half_greatest :
    nearest ((2 ^ 53 - 1) * 2 ^ fine + 2 ^ 53 * 2 ^ fine : Nat) = 2 ^ 54 * 2 ^ fine := by
  have positive : (0 : ℚ) < 2 ^ fine := by positivity
  have double : (2 : ℚ) ^ (fine + 1) = 2 * 2 ^ fine := pow_succ' 2 fine
  have tie := @nearest_tie_at ((2 ^ 53 - 1) * 2 ^ fine + 2 ^ 53 * 2 ^ fine : Nat) (2 ^ 53) (fine + 1) (by decide)
    (by push_cast; rw [double]; linarith) (by push_cast; rw [double]; linarith)
    (.inr (by push_cast; rw [double]; ring))
  rw [tie]
  ring

end Small

end SpokenArithmetic.Number
