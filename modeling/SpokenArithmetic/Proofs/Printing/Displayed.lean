import SpokenArithmetic.Number.Display
import SpokenArithmetic.Proofs.Arithmetic.Answers
import SpokenArithmetic.Proofs.Printing.Literal

set_option autoImplicit false

namespace SpokenArithmetic.Evaluation

open Arithmetic Number Text
open Phrase (dropTrailingZeros_append ofDigits_zeros)

section Literals

variable {whole fraction : List Char} {n : Nat}

def StandsFor (text : List Char) (q : ℚ) : Prop :=
  exists mantissa exponent, Literal text mantissa exponent ∧ (mantissa : ℚ) * 10 ^ exponent = q

theorem standsFor_whole (n : Nat) : StandsFor (toDigits n) n := by
  have literal := Literal.whole (ascii_toDigits n)
  rw [ofDigits_toDigits] at literal
  exact ⟨n, 0, literal, by rw [zpow_zero, mul_one]⟩

theorem standsFor_pointed (first : AsciiDigits whole) (second : AsciiDigits fraction) :
    StandsFor (whole ++ '.' :: fraction) (ofDigits (whole ++ fraction) / 10 ^ fraction.length) :=
  ⟨_, _, .pointed first second, by rw [zpow_neg, zpow_natCast, div_eq_mul_inv]⟩

theorem fraction_zeros (whole fraction : List Char) (count : Nat) :
    (ofDigits (whole ++ (fraction ++ zeros count)) : ℚ) / 10 ^ (fraction ++ zeros count).length =
      ofDigits (whole ++ fraction) / 10 ^ fraction.length := by
  have value : ofDigits (whole ++ (fraction ++ zeros count)) = ofDigits (whole ++ fraction) * 10 ^ count := by
    rw [← List.append_assoc, ofDigits_append _ (zeros count), zeros, ofDigits_zeros, List.length_replicate,
      Nat.add_zero]
  rw [value, List.length_append, zeros, List.length_replicate, pow_add]
  push_cast
  field_simp

theorem standsFor_trimmed (first : AsciiDigits whole) (second : AsciiDigits fraction) :
    StandsFor (whole ++ '.' :: trimFraction fraction) (ofDigits (whole ++ fraction) / 10 ^ fraction.length) := by
  have parts := dropTrailingZeros_append fraction
  have value := fraction_zeros whole (dropTrailingZeros fraction) (Phrase.trailingZeros fraction)
  rw [zeros, parts] at value
  rw [value]
  unfold trimFraction
  split
  next none =>
    have zero := standsFor_pointed first (show AsciiDigits (zeros 1) from ⟨by decide, by decide⟩)
    have same := fraction_zeros whole [] 1
    rw [List.nil_append] at same
    rw [none, ← same]
    exact zero
  next some =>
    refine standsFor_pointed first ⟨some, fun c member => second.all c ?_⟩
    rw [← parts]
    exact List.mem_append_left _ member

theorem ascii_zeros {count : Nat} {c : Char} (member : c ∈ zeros count) : c.isDigit = true := by
  rw [List.eq_of_mem_replicate member]
  rfl

theorem ascii_paddedDigits (width value : Nat) : AsciiDigits (paddedDigits width value) := by
  constructor
  case present => exact List.append_ne_nil_of_right_ne_nil _ Nat.toDigits_ne_nil
  case all =>
    intro c member
    rcases List.mem_append.1 member with front | behind
    next => exact ascii_zeros front
    next => exact toDigits_ascii behind

@[simp] theorem ofDigits_paddedDigits (width value : Nat) : ofDigits (paddedDigits width value) = value := by
  have digits : ofDigits (Nat.toDigits 10 value) = value := ofDigits_toDigits value
  rw [paddedDigits, ofDigits_append, zeros, ofDigits_zeros, digits, Nat.zero_mul, Nat.zero_add]

theorem length_paddedDigits {width value : Nat} (some : 0 < width) (small : value < 10 ^ width) :
    (paddedDigits width value).length = width := by
  have short := (length_toDigits_le some).2 small
  unfold toDigits at short
  rw [paddedDigits, List.length_append, zeros, List.length_replicate]
  omega

end Literals

section Steps

variable {n more : Nat}

theorem steps_error (some : 0 < n) (more : Nat) :
    |(nearest (stepped n) * tenTo (6 + more) : Nat) / (one : ℚ) - n * 10 ^ more| <= n * 10 ^ more / 2 ^ 53 := by
  have error := nearest_error (stepped_large some)
  have scaled : stepped n * (10 ^ (6 + more) / one) = n * 10 ^ more := by
    have positive := Arithmetic.one_pos
    rw [stepped, pow_add]
    field_simp
    norm_num
  have factor : (0 : ℚ) <= 10 ^ (6 + more) / one := div_nonneg (by positivity) Arithmetic.one_pos.le
  have product := mul_le_mul_of_nonneg_right error factor
  rw [← abs_of_nonneg factor, ← abs_mul, abs_of_nonneg factor, sub_mul, scaled, div_mul_eq_mul_div, scaled] at product
  rwa [Nat.cast_mul, cast_tenTo, mul_div_assoc]

theorem roundHalfEven_steps (some : 0 < n) (small : n * 10 ^ more < 2 ^ 52) :
    roundHalfEven (nearest (stepped n) * tenTo (6 + more)) one = n * 10 ^ more := by
  have error := abs_le.1 (steps_error some more)
  have bound : (n : ℚ) * 10 ^ more / 2 ^ 53 < 1 / 2 := by
    rw [div_lt_iff₀ (by positivity)]
    have cast : ((n * 10 ^ more : Nat) : ℚ) < 2 ^ 52 := by exact_mod_cast small
    push_cast at cast
    linarith
  rw [roundHalfEven_eq _ (Nat.cast_pos.1 Arithmetic.one_pos)]
  refine halfEven_of_near ?_ ?_ (div_nonneg (Nat.cast_nonneg _) Arithmetic.one_pos.le)
  next =>
    push_cast at error ⊢
    linarith
  next =>
    push_cast at error ⊢
    linarith

theorem length_steps (some : 0 < n) (small : n < 2 ^ 53) :
    (toDigits (nearest (stepped n) * tenTo (6 + (more + 2)) / one)).length <= (toDigits n).length + (more + 2) ∧
      (toDigits n).length + more < (toDigits (nearest (stepped n) * tenTo (6 + (more + 2)) / one)).length := by
  have error := abs_le.1 (steps_error some (more + 2))
  have unit : 0 < one := Nat.cast_pos.1 Arithmetic.one_pos
  have least := pow_length_le some
  have most := lt_pow_length n
  have power : (0 : ℚ) < 10 ^ more := by positivity
  have tens : (10 : ℚ) ^ (more + 2) = 100 * 10 ^ more := by ring
  rw [tens] at error
  generalize (toDigits n).length = digits at least most ⊢
  generalize nearest (stepped n) * tenTo (6 + (more + 2)) = value at error ⊢
  constructor
  next =>
    have next : (n : ℚ) + 1 <= 10 ^ digits := by exact_mod_cast most
    have cast : (n : ℚ) < 2 ^ 53 := by exact_mod_cast small
    have room : ((10 ^ (digits + (more + 2)) : Nat) : ℚ) = 10 ^ digits * (100 * 10 ^ more) := by
      push_cast
      ring
    rw [length_toDigits_le (by omega), Nat.div_lt_iff_lt_mul unit, ← @Nat.cast_lt ℚ, Nat.cast_mul,
      ← div_lt_iff₀ Arithmetic.one_pos, room]
    generalize (value : ℚ) / one = quantity at error ⊢
    clear unit
    nlinarith
  next =>
    have least' : (10 : ℚ) ^ digits <= 10 * n := by exact_mod_cast least
    have room : ((10 ^ (digits + more) : Nat) : ℚ) = 10 ^ digits * 10 ^ more := by
      push_cast
      ring
    have quotient : 10 ^ (digits + more) <= value / one := by
      rw [Nat.le_div_iff_mul_le unit, ← @Nat.cast_le ℚ, Nat.cast_mul, ← le_div_iff₀ Arithmetic.one_pos, room]
      generalize (value : ℚ) / one = quantity at error ⊢
      clear unit
      nlinarith
    exact (Nat.pow_lt_pow_iff_right (by decide)).1 (quotient.trans_lt (lt_pow_length _))

end Steps

section Magnitudes

variable {n : Nat}

theorem standsFor_displayFixed (units : Nat) :
    StandsFor (displayFixed units) (roundHalfEven (units * 10 ^ 6) one / 1000000) := by
  have million : tenTo 6 = 10 ^ 6 := rfl
  unfold displayFixed fixedPlaces
  dsimp only
  rw [million]
  generalize roundHalfEven (units * 10 ^ 6) one = count
  have below : count % 10 ^ 6 < 10 ^ 6 := Nat.mod_lt _ (by decide)
  have length := length_paddedDigits (by decide) below
  have literal := standsFor_trimmed (ascii_toDigits (count / 10 ^ 6)) (ascii_paddedDigits 6 (count % 10 ^ 6))
  have parts : count / 10 ^ 6 * 10 ^ 6 + count % 10 ^ 6 = count := Nat.div_add_mod' count (10 ^ 6)
  have scale : (10 : ℚ) ^ 6 = 1000000 := by norm_num
  rw [ofDigits_append, ofDigits_toDigits, ofDigits_paddedDigits, length, parts, scale] at literal
  exact literal

theorem standsFor_fixed (some : 0 < n) (small : n < 2 ^ 52) :
    StandsFor (displayFixed (nearest (stepped n))) (n / 1000000) := by
  have count : roundHalfEven (nearest (stepped n) * 10 ^ 6) one = n * 10 ^ 0 :=
    @roundHalfEven_steps n 0 some (by rwa [Nat.pow_zero, Nat.mul_one])
  rw [Nat.pow_zero, Nat.mul_one] at count
  have literal := standsFor_displayFixed (nearest (stepped n))
  rwa [count] at literal

theorem leadingPower_steps (some : 0 < n) (small : n < 2 ^ 53) :
    leadingPower (nearest (stepped n)) = (toDigits n).length - 7 ∨
      leadingPower (nearest (stepped n)) = (toDigits n).length - 8 := by
  obtain ⟨most, least⟩ := @length_steps n 322 some small
  have same : leadingPower (nearest (stepped n)) =
      ((toDigits (nearest (stepped n) * tenTo (6 + (322 + 2)) / one)).length : Int) - 331 := rfl
  omega

theorem scientific_steps (some : 0 < n) (short : (toDigits n).length <= 5) :
    scientific 4 (nearest (stepped n)) =
      (toDigits n ++ zeros (5 - (toDigits n).length), ((toDigits n).length : Int) - 7) := by
  have below := lt_pow_length n
  have bound : 10 ^ (toDigits n).length <= 10 ^ 5 := Nat.pow_le_pow_right (by decide) short
  -- Whether the double is below a power of ten decides on a further zero only.
  obtain ⟨more, leading, total⟩ : exists more : Nat, leadingPower (nearest (stepped n)) = -((2 + more : Nat) : Int) ∧
      ((toDigits n).length + more = 5 ∨ (toDigits n).length + more = 6) := by
    rcases leadingPower_steps some (by omega) with leading | leading
    next => exact ⟨5 - (toDigits n).length, by omega, by omega⟩
    next => exact ⟨6 - (toDigits n).length, by omega, by omega⟩
  have small : n * 10 ^ more < 2 ^ 52 := by
    have power : 10 ^ (toDigits n).length * 10 ^ more <= 10 ^ 6 := by
      rw [← Nat.pow_add]
      exact Nat.pow_le_pow_right (by decide) (by omega)
    have product := Nat.mul_lt_mul_of_pos_right below (Nat.pow_pos (show 0 < 10 by decide) : 0 < 10 ^ more)
    omega
  have step : -((2 + more : Nat) : Int) - (4 : Nat) = .negSucc (5 + more) := by omega
  have places : 5 + more + 1 = 6 + more := by omega
  have digits : Nat.toDigits 10 (n * 10 ^ more) = toDigits n ++ zeros more := toDigits_mul_pow some more
  unfold scientific
  dsimp only
  rw [leading, step]
  dsimp only
  rw [places, roundHalfEven_steps some small, digits, List.length_append, zeros, List.length_replicate,
    List.take_append, List.take_of_length_le short, List.take_replicate, zeros]
  refine Prod.ext ?_ ?_
  next =>
    dsimp only
    congr 2
    omega
  next =>
    dsimp only
    omega

theorem standsFor_exponential (some : 0 < n) (short : (toDigits n).length <= 5) :
    StandsFor (displayExponential (nearest (stepped n))) (n / 1000000) := by
  obtain ⟨further, furtherEq⟩ : exists further, 5 - (toDigits n).length = further := ⟨_, rfl⟩
  obtain ⟨digits, digitsEq⟩ : exists digits, toDigits n ++ zeros further = digits := ⟨_, rfl⟩
  have ascii (c : Char) (member : c ∈ digits) : c.isDigit = true := by
    rw [← digitsEq] at member
    rcases List.mem_append.1 member with own | added
    next => exact toDigits_ascii own
    next => exact ascii_zeros added
  have length : digits.length = 5 := by
    rw [← digitsEq, List.length_append, zeros, List.length_replicate]
    omega
  have value : ofDigits digits = n * 10 ^ further := by
    rw [← digitsEq, ofDigits_append, zeros, ofDigits_zeros, ofDigits_toDigits, List.length_replicate, Nat.add_zero]
  have first : AsciiDigits (digits.take 1) :=
    ⟨List.length_pos_iff.1 (by rw [List.length_take]; omega), fun c member => ascii c (List.mem_of_mem_take member)⟩
  have second : AsciiDigits (digits.drop 1) :=
    ⟨List.length_pos_iff.1 (by rw [List.length_drop]; omega), fun c member => ascii c (List.mem_of_mem_drop member)⟩
  have exponent : ((toDigits n).length : Int) - 7 = -((2 + further : Nat) : Int) := by omega
  have power : writeExponent 1 (-((2 + further : Nat) : Int)) = '-' :: paddedDigits 1 (2 + further) := by
    rw [writeExponent, if_pos (by omega), Int.natAbs_neg, Int.natAbs_natCast]
  unfold displayExponential
  rw [scientific_steps some short, furtherEq, digitsEq, exponent]
  dsimp only
  rw [power]
  refine ⟨_, _, .reduced first second (ascii_paddedDigits 1 (2 + further)), ?_⟩
  rw [List.take_append_drop, value, ofDigits_paddedDigits, List.length_drop, length]
  have places : -((2 + further : Nat) : Int) - (5 - 1 : Nat) = -((further + 6 : Nat) : Int) := by omega
  rw [places, zpow_neg, zpow_natCast, pow_add]
  push_cast
  field_simp
  norm_num

end Magnitudes

end SpokenArithmetic.Evaluation
