import SpokenArithmetic.Proofs.Arithmetic.Millionths
import SpokenArithmetic.Proofs.Printing.Literal
import SpokenArithmetic.Proofs.Printing.Surface

set_option autoImplicit false

namespace SpokenArithmetic.Evaluation

open Arithmetic Grammar Number Text Token

variable {text : List Char} {n : Nat}

inductive SixPlaces : (text : List Char) -> (n : Nat) -> Prop where
  | whole {digits : List Char} (ascii : AsciiDigits digits) : SixPlaces digits (ofDigits digits * 10 ^ 6)
  | pointed {whole fraction : List Char} (present : whole ++ fraction ≠ [])
    (all : forall c, c ∈ whole ++ fraction -> c.isDigit = true) (few : fraction.length <= 6) :
    SixPlaces (whole ++ '.' :: fraction) (ofDigits (whole ++ fraction) * 10 ^ (6 - fraction.length))

namespace SixPlaces

theorem plain (literal : SixPlaces text n) : PlainNumeral text := by
  cases literal with
  | whole ascii => exact .whole ascii.present ascii.all
  | pointed present all few => exact .pointed present all

theorem read (literal : SixPlaces text n) :
    exists x, unsignedDecimal? text = some x ∧ exactly x = nearestExact false (stepped n) := by
  cases literal with
  | whole ascii =>
    refine ⟨_, unsignedDecimal?_whole ascii, ?_⟩
    rw [exactly_ofDecimal, stepped]
    congr 2
    push_cast
    norm_num
  | @pointed whole fraction present all few =>
    have digits := fun c member => isDigit_of_asciiDigit (all c member)
    have split := splitAt?_unmarked (isPowerMark_mantissa (.pointed present digits))
    refine ⟨_, unsignedDecimal?_pointed split present all rfl, ?_⟩
    rw [exactly_ofDecimal, stepped]
    congr 2
    have places : (10 : ℚ) ^ (6 - fraction.length) * 10 ^ fraction.length = 1000000 := by
      rw [← pow_add, Nat.sub_add_cancel few]
      norm_num
    rw [zero_sub, zpow_neg, zpow_natCast, ← places]
    push_cast
    field_simp

theorem value_eq (literal : SixPlaces text n) {x result : Float} (read : unsignedDecimal? text = some x)
    (finite : isFinite x = true) (rounds : roundAnswer? x = some result) : value text = .ok result := by
  obtain ⟨pointed, isMantissa⟩ := literal.plain.isMantissa
  have among (c : Char) (point : c = '.') : c ∈ ['.', 'e', '-'] := by simp [point]
  have own : value text = rounded (.ok x) :=
    value_numeral (.plain isMantissa (by simp [Lengthens]) rfl)
      (fun c member => (literal.plain.chars c member).imp_right (among c)) read false
  rw [own, rounded, if_pos finite, rounds]

end SixPlaces

/-- The value of a numeral with six decimal places is the double nearest to it, if the double is finite and
not overstated. Below 2^32 none is. From there to 2^52 millionths those are that are more than a quarter of a
millionth above the numeral, and beyond, as long as scaling stays below 2^53, those that are nearest to an odd
number of millionths; their value is the quotient of the next number of millionths. -/
theorem value_sixPlaces (literal : SixPlaces text n) :
    exists x, unsignedDecimal? text = some x ∧ exactly x = nearestExact false (stepped n) ∧
      (isFinite x = true ->
        (¬ Overstated n -> value text = .ok x) ∧
        (Overstated n ->
          value text = .ok (ofInt (millionths (nearest (stepped n)) + 1 : Nat) / answerScale) ∧
            (n < 2 ^ 33 * 1000000 -> value text ≠ .ok x)) ∧
        (n < 2 ^ 32 * 1000000 -> ¬ Overstated n) ∧
        (2 ^ 52 <= n -> n < 2 ^ 33 * 1000000 -> (Overstated n ↔ n % 2 = 1))) := by
  obtain ⟨x, read, near⟩ := literal.read
  refine ⟨x, read, near, fun finite => ?_⟩
  have same := exactly_nearest finite near
  obtain ⟨steady, overstated⟩ := roundAnswer?_stepped same
  refine ⟨fun not => literal.value_eq read finite (steady not), fun overstates => ?_, not_overstated,
    overstated_iff_odd⟩
  have answer := literal.value_eq read finite (overstated overstates)
  refine ⟨answer, fun small equal => ?_⟩
  rw [answer, millionths_nearest small.le] at equal
  exact next_ne same small (Except.ok.inj equal)

theorem value_sixPlaces_odd :
    exists x, unsignedDecimal? "4503599627.370497".toList = some x ∧ isFinite x = true ∧
      value "4503599627.370497".toList ≠ .ok x := by
  have literal : SixPlaces "4503599627.370497".toList 4503599627370497 :=
    @SixPlaces.pointed "4503599627".toList "370497".toList (by decide) (by decide) (by decide)
  obtain ⟨x, read, _, answers⟩ := value_sixPlaces literal
  have finite : isFinite x = true := by
    have evaluated : (unsignedDecimal? "4503599627.370497".toList).any isFinite = true := by decide +kernel
    rwa [read] at evaluated
  obtain ⟨_, overstated, _, odd⟩ := answers finite
  exact ⟨x, read, finite, (overstated ((odd (by decide) (by decide)).2 (by decide))).2 (by decide)⟩

end SpokenArithmetic.Evaluation
