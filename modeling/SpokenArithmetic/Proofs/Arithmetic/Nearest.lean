import Mathlib.Data.Nat.Cast.Field
import Mathlib.Data.Rat.Floor
import SpokenArithmetic.Number.Exact

set_option autoImplicit false

namespace SpokenArithmetic.Number

section HalfEven

variable {y z : ℚ} {m n : Nat}

structure IsHalfEven (y : ℚ) (n : Nat) : Prop where
  low : y <= n + 1 / 2
  high : n - 1 / 2 <= y
  tie : y = n + 1 / 2 ∨ y = n - 1 / 2 -> n % 2 = 0

theorem exists_fraction (numerator : Nat) {denominator : Nat} (positive : 0 < denominator) :
    exists part : ℚ, (numerator : ℚ) / denominator = (numerator / denominator : Nat) + part ∧ 0 <= part ∧ part < 1 ∧
      (part = 0 ↔ numerator % denominator = 0) ∧ (part < 1 / 2 ↔ 2 * (numerator % denominator) < denominator) ∧
      (1 / 2 < part ↔ denominator < 2 * (numerator % denominator)) := by
  have divides : (0 : ℚ) < denominator := by exact_mod_cast positive
  have whole : (denominator : ℚ) * (numerator / denominator : Nat) + (numerator % denominator : Nat) = numerator := by
    exact_mod_cast Nat.div_add_mod numerator denominator
  have small : numerator % denominator < denominator := Nat.mod_lt numerator positive
  refine ⟨(numerator % denominator : Nat) / denominator, ?_, by positivity, ?_, ?_, ?_, ?_⟩
  next =>
    field_simp
    linarith
  next =>
    rw [div_lt_one divides]
    exact_mod_cast small
  next =>
    rw [div_eq_zero_iff]
    simp [divides.ne']
  next =>
    rw [div_lt_div_iff₀ divides (by norm_num), ← @Nat.cast_lt ℚ]
    push_cast
    rw [one_mul, mul_comm]
  next =>
    rw [div_lt_div_iff₀ (by norm_num) divides, ← @Nat.cast_lt ℚ]
    push_cast
    rw [one_mul, mul_comm 2]

theorem roundHalfEven_isHalfEven (numerator : Nat) {denominator : Nat} (positive : 0 < denominator) :
    IsHalfEven (numerator / denominator) (roundHalfEven numerator denominator) := by
  obtain ⟨part, parts, nonneg, small, _, below, above⟩ := exists_fraction numerator positive
  unfold roundHalfEven
  dsimp only
  rw [parts]
  generalize numerator / denominator = whole
  split
  next less =>
    have half := below.2 less
    exact ⟨by linarith, by linarith, by rintro (same | same) <;> linarith⟩
  next notLess =>
    have least := not_lt.1 (mt below.1 notLess)
    split
    next more =>
      have half := above.2 more
      exact ⟨by push_cast; linarith, by push_cast; linarith, by push_cast; rintro (same | same) <;> linarith⟩
    next notMore =>
      have most := not_lt.1 (mt above.1 notMore)
      split
      next even => exact ⟨by linarith, by linarith, fun _ => even⟩
      next odd => exact ⟨by push_cast; linarith, by push_cast; linarith, fun _ => by omega⟩

theorem IsHalfEven.mono (first : IsHalfEven y m) (second : IsHalfEven z n) (le : y <= z) : m <= n := by
  by_contra more
  have next : n + 1 <= m := by omega
  have cast : (n : ℚ) + 1 <= m := by exact_mod_cast next
  have firstHigh := first.high
  have secondLow := second.low
  -- Both quantities are then half-way between the two numbers.
  have same : (m : ℚ) = n + 1 := by linarith
  have firstTie := first.tie (.inr (by linarith))
  have secondTie := second.tie (.inl (by linarith))
  have successor : m = n + 1 := by exact_mod_cast same
  omega

theorem IsHalfEven.unique (first : IsHalfEven y m) (second : IsHalfEven y n) : m = n :=
  Nat.le_antisymm (first.mono second le_rfl) (second.mono first le_rfl)

theorem isHalfEven_natCast (n : Nat) : IsHalfEven n n :=
  ⟨by linarith, by linarith, by rintro (same | same) <;> linarith⟩

def halfEven (y : ℚ) : Nat :=
  roundHalfEven y.num.toNat y.den

theorem isHalfEven_halfEven (nonneg : 0 <= y) : IsHalfEven y (halfEven y) := by
  have result := roundHalfEven_isHalfEven y.num.toNat y.den_pos
  have numerator : ((y.num.toNat : Nat) : ℚ) = y.num := by
    exact_mod_cast Int.toNat_of_nonneg (Rat.num_nonneg.2 nonneg)
  rwa [numerator, Rat.num_div_den] at result

theorem IsHalfEven.eq (nearest : IsHalfEven y n) (nonneg : 0 <= y) : n = halfEven y :=
  nearest.unique (isHalfEven_halfEven nonneg)

theorem roundHalfEven_eq (numerator : Nat) {denominator : Nat} (positive : 0 < denominator) :
    roundHalfEven numerator denominator = halfEven (numerator / denominator) :=
  (roundHalfEven_isHalfEven numerator positive).eq (by positivity)

@[simp] theorem halfEven_natCast (n : Nat) : halfEven n = n :=
  ((isHalfEven_natCast n).eq (Nat.cast_nonneg n)).symm

theorem halfEven_mono (nonneg : 0 <= y) (le : y <= z) : halfEven y <= halfEven z :=
  (isHalfEven_halfEven nonneg).mono (isHalfEven_halfEven (nonneg.trans le)) le

theorem halfEven_le (nonneg : 0 <= y) (le : y <= n) : halfEven y <= n := by
  simpa using halfEven_mono nonneg le

theorem le_halfEven (le : n <= y) : n <= halfEven y := by
  simpa using halfEven_mono (Nat.cast_nonneg n) le

theorem halfEven_of_near (low : y < n + 1 / 2) (high : n - 1 / 2 < y) (nonneg : 0 <= y) : halfEven y = n := by
  have near : IsHalfEven y n := ⟨low.le, high.le, by rintro (same | same) <;> linarith⟩
  exact (near.eq nonneg).symm

end HalfEven

section Bits

variable {y : ℚ} {units : Nat}

theorem log2_mul_pow {m : Nat} (positive : 0 < m) (places : Nat) : (m * 2 ^ places).log2 = m.log2 + places := by
  have nonzero : m ≠ 0 := Nat.pos_iff_ne_zero.1 positive
  rw [Nat.log2_eq_iff (Nat.mul_ne_zero nonzero (Nat.two_pow_pos places).ne')]
  have low := Nat.log2_self_le nonzero
  have high := @Nat.lt_log2_self m
  constructor
  next =>
    rw [Nat.pow_add]
    exact Nat.mul_le_mul_right _ low
  next =>
    rw [Nat.add_right_comm, Nat.pow_add]
    exact Nat.mul_lt_mul_of_pos_right high (Nat.two_pow_pos places)

theorem log2_floor {places : Nat} (low : 2 ^ places <= y) (high : y < 2 ^ (places + 1)) : ⌊y⌋₊.log2 = places := by
  have nonneg : 0 <= y := le_trans (by positivity) low
  have first : 2 ^ places <= ⌊y⌋₊ := Nat.le_floor (by exact_mod_cast low)
  have second : ⌊y⌋₊ < 2 ^ (places + 1) := (Nat.floor_lt nonneg).2 (by exact_mod_cast high)
  have positive := Nat.two_pow_pos places
  exact (Nat.log2_eq_iff (by omega)).2 ⟨first, second⟩

theorem shiftOf_small (small : units < 2 ^ 53) : shiftOf units = 0 := by
  unfold shiftOf
  by_cases zero : units = 0
  next => simp [zero]
  next =>
    have bound := (Nat.log2_lt zero).2 small
    omega

theorem shiftOf_mul_pow {m : Nat} (least : 2 ^ 52 <= m) (most : m < 2 ^ 53) (places : Nat) :
    shiftOf (m * 2 ^ places) = places := by
  have normal : m.log2 = 52 := (Nat.log2_eq_iff (by omega)).2 ⟨least, most⟩
  rw [shiftOf, log2_mul_pow (by omega), normal]
  omega

theorem shiftOf_mono {first second : Nat} (le : first <= second) : shiftOf first <= shiftOf second := by
  by_cases zero : first = 0
  next => simp [shiftOf, zero]
  next =>
    have bound : first.log2 <= second.log2 := by
      rw [Nat.le_log2 (by omega)]
      exact (Nat.log2_self_le zero).trans le
    unfold shiftOf
    omega

theorem lt_shiftOf (units : Nat) : units < 2 ^ (53 + shiftOf units) := by
  have bound := @Nat.lt_log2_self units
  refine bound.trans_le (Nat.pow_le_pow_right (by decide) ?_)
  unfold shiftOf
  omega

theorem shiftOf_le {places : Nat} (shifted : 0 < shiftOf units) (le : places <= shiftOf units) :
    2 ^ (52 + places) <= units := by
  have present : units ≠ 0 := by
    rintro rfl
    simp [shiftOf] at shifted
  refine (Nat.pow_le_pow_right (by decide) ?_).trans (Nat.log2_self_le present)
  unfold shiftOf at shifted le
  omega

def Representable (units : Nat) : Prop :=
  2 ^ shiftOf units ∣ units

instance (units : Nat) : Decidable (Representable units) :=
  inferInstanceAs (Decidable (_ ∣ _))

theorem Representable.parts (representable : Representable units) :
    units / 2 ^ shiftOf units * 2 ^ shiftOf units = units :=
  Nat.div_mul_cancel representable

theorem representable_small (small : units < 2 ^ 53) : Representable units := by
  unfold Representable
  rw [shiftOf_small small, Nat.pow_zero]
  exact one_dvd units

theorem representable_mul_pow {m : Nat} (most : m <= 2 ^ 53) (places : Nat) : Representable (m * 2 ^ places) := by
  by_cases zero : m = 0
  next =>
    rw [zero, Nat.zero_mul]
    exact representable_small (by decide)
  next =>
    by_cases largest : m = 2 ^ 53
    next =>
      have leading : m * 2 ^ places = 2 ^ 52 * 2 ^ (places + 1) := by
        rw [largest, Nat.pow_succ 2 places]
        omega
      unfold Representable
      rw [leading, shiftOf_mul_pow le_rfl (by decide)]
      exact Nat.dvd_mul_left _ _
    next =>
      have bound := (Nat.log2_lt zero).2 (by omega : m < 2 ^ 53)
      refine (pow_dvd_pow 2 ?_).trans (Nat.dvd_mul_left _ _)
      rw [shiftOf, log2_mul_pow (by omega)]
      omega

end Bits

section Nearest

variable {y z : ℚ} {n : Nat}

def placesOf (y : ℚ) : Nat :=
  shiftOf ⌊y⌋₊

/-- The double nearest to a quantity, where doubles may be arbitrarily large. -/
def nearest (y : ℚ) : Nat :=
  halfEven (y / 2 ^ placesOf y) * 2 ^ placesOf y

theorem scaled_lt (y : ℚ) : y / 2 ^ placesOf y < 2 ^ 53 := by
  rw [div_lt_iff₀ (by positivity), ← pow_add]
  exact (Nat.lt_floor_add_one y).trans_le (by exact_mod_cast lt_shiftOf ⌊y⌋₊)

theorem le_scaled (nonneg : 0 <= y) (shifted : 0 < placesOf y) : 2 ^ 52 <= y / 2 ^ placesOf y := by
  rw [le_div_iff₀ (by positivity), ← pow_add]
  have leading := shiftOf_le shifted le_rfl
  exact le_trans (by exact_mod_cast leading) (Nat.floor_le nonneg)

theorem leading_le (nonneg : 0 <= y) : halfEven (y / 2 ^ placesOf y) <= 2 ^ 53 :=
  halfEven_le (by positivity) (by exact_mod_cast (scaled_lt y).le)

theorem le_leading (nonneg : 0 <= y) (shifted : 0 < placesOf y) : 2 ^ 52 <= halfEven (y / 2 ^ placesOf y) :=
  le_halfEven (by exact_mod_cast le_scaled nonneg shifted)

theorem representable_nearest (nonneg : 0 <= y) : Representable (nearest y) :=
  representable_mul_pow (leading_le nonneg) _

theorem placesOf_natCast (n : Nat) : placesOf n = shiftOf n := by
  rw [placesOf, Nat.floor_natCast]

theorem nearest_natCast (representable : Representable n) : nearest n = n := by
  have quotient : (n : ℚ) / 2 ^ shiftOf n = (n / 2 ^ shiftOf n : Nat) := by
    rw [Nat.cast_div representable (by positivity)]
    push_cast
    rfl
  rw [nearest, placesOf_natCast, quotient, halfEven_natCast, representable.parts]

theorem nearest_mono (nonneg : 0 <= y) (le : y <= z) : nearest y <= nearest z := by
  have places : placesOf y <= placesOf z := shiftOf_mono (Nat.floor_le_floor le)
  rcases Nat.lt_or_eq_of_le places with less | same
  next =>
    have first := Nat.mul_le_mul_right (2 ^ placesOf y) (leading_le nonneg)
    have second := Nat.mul_le_mul_right (2 ^ placesOf z) (le_leading (nonneg.trans le) (by omega))
    have between : 2 ^ 53 * 2 ^ placesOf y <= 2 ^ 52 * 2 ^ placesOf z := by
      rw [← Nat.pow_add, ← Nat.pow_add]
      exact Nat.pow_le_pow_right (by decide) (by omega)
    exact first.trans (between.trans second)
  next =>
    unfold nearest
    rw [same]
    refine Nat.mul_le_mul_right _ (halfEven_mono (by positivity) ?_)
    gcongr

theorem nearest_le (representable : Representable n) (nonneg : 0 <= y) (le : y <= n) : nearest y <= n := by
  have mono := nearest_mono nonneg le
  rwa [nearest_natCast representable] at mono

theorem le_nearest (representable : Representable n) (le : n <= y) : n <= nearest y := by
  have mono := nearest_mono (Nat.cast_nonneg n) le
  rwa [nearest_natCast representable] at mono

theorem nearest_at {places : Nat} (low : 2 ^ 52 * 2 ^ places <= y) (high : y < 2 ^ 53 * 2 ^ places) :
    nearest y = halfEven (y / 2 ^ places) * 2 ^ places := by
  rw [← pow_add] at low high
  have next : 53 + places = 52 + places + 1 := by omega
  rw [next] at high
  have own : placesOf y = places := by
    rw [placesOf, shiftOf, log2_floor low high]
    omega
  rw [nearest, own]

theorem nearest_tie_at {places : Nat} (even : n % 2 = 0) (low : 2 ^ 52 * 2 ^ places <= y)
    (high : y < 2 ^ 53 * 2 ^ places) (tie : y = (n + 1 / 2) * 2 ^ places ∨ y = (n - 1 / 2) * 2 ^ places) :
    nearest y = n * 2 ^ places := by
  have power : (2 : ℚ) ^ places ≠ 0 := by positivity
  have nearestEven : IsHalfEven (y / 2 ^ places) n := by
    rcases tie with up | down
    next =>
      rw [up, mul_div_assoc, div_self power, mul_one]
      exact ⟨le_rfl, by linarith, fun _ => even⟩
    next =>
      rw [down, mul_div_assoc, div_self power, mul_one]
      exact ⟨by linarith, le_rfl, fun _ => even⟩
  have nonneg : 0 <= y := le_trans (by positivity) low
  rw [nearest_at low high, ← nearestEven.eq (by positivity)]

theorem nearest_error_placesOf (nonneg : 0 <= y) : |(nearest y : ℚ) - y| <= 2 ^ placesOf y / 2 := by
  have near := isHalfEven_halfEven (show 0 <= y / 2 ^ placesOf y by positivity)
  have power : (0 : ℚ) < 2 ^ placesOf y := by positivity
  have low := (div_le_iff₀ power).1 near.low
  have high := (le_div_iff₀ power).1 near.high
  have cast : ((nearest y : Nat) : ℚ) = halfEven (y / 2 ^ placesOf y) * 2 ^ placesOf y := by
    rw [nearest]
    push_cast
    rfl
  rw [cast, abs_le]
  constructor <;> linarith

theorem nearest_error_at {places : Nat} (nonneg : 0 <= y) (high : y <= 2 ^ 53 * 2 ^ places) :
    |(nearest y : ℚ) - y| <= 2 ^ places / 2 := by
  by_cases fewer : placesOf y <= places
  next =>
    have step : (2 : ℚ) ^ placesOf y <= 2 ^ places := pow_le_pow_right₀ (by norm_num) fewer
    exact (nearest_error_placesOf nonneg).trans (by linarith)
  next =>
    -- The quantity is then the least one that has a greater distance, and a double.
    have leading := (le_div_iff₀ (by positivity)).1 (le_scaled nonneg (by omega))
    have larger : (2 : ℚ) ^ 53 * 2 ^ places <= 2 ^ 52 * 2 ^ placesOf y := by
      rw [← pow_add, ← pow_add]
      exact pow_le_pow_right₀ (by norm_num) (by omega)
    have same : y = (2 ^ 53 * 2 ^ places : Nat) := by
      push_cast
      linarith
    rw [same, nearest_natCast (representable_mul_pow le_rfl places), sub_self, abs_zero]
    positivity

theorem nearest_error (large : 2 ^ 52 <= y) : |(nearest y : ℚ) - y| <= y / 2 ^ 53 := by
  have nonneg : 0 <= y := le_trans (by positivity) large
  have leading : 2 ^ 52 * 2 ^ placesOf y <= y := by
    rcases Nat.eq_zero_or_pos (placesOf y) with none | shifted
    next => simpa [none] using large
    next => exact (le_div_iff₀ (by positivity)).1 (le_scaled nonneg shifted)
  exact (nearest_error_placesOf nonneg).trans (by linarith)

end Nearest

end SpokenArithmetic.Number
