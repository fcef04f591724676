import SpokenArithmetic.Proofs.Arithmetic.HalfUp
import SpokenArithmetic.Proofs.Printing.Evaluated
import SpokenArithmetic.Proofs.Printing.Entered

set_option autoImplicit false

namespace SpokenArithmetic.Evaluation

open Arithmetic Grammar Number Text Token

variable {x : Float} {negative : Bool} {units n : Nat} {digits : List Char}

section Doubles

theorem integer?_roundHalfUp (same : exactly x = .finite negative units) :
    integer? (roundHalfUp x) = some (roundedExactly negative units + overshoot negative units) := by
  have finite : isFinite x = true := isFinite_eq_true.2 ⟨_, _, same⟩
  rw [roundHalfUp, if_pos finite, integer?_floor (isFinite_add_half finite), floor?_add_half same]

theorem roundAnswer?_roundHalfUp (finite : isFinite x = true) :
    isFinite (roundHalfUp x) = true ∧ roundAnswer? (roundHalfUp x) = some (roundHalfUp x) := by
  obtain ⟨value, _, whole⟩ := exactly_floor (isFinite_add_half finite)
  have cut : roundHalfUp x = floor (x + 0.5) := by rw [roundHalfUp, if_pos finite]
  rw [← cut] at whole
  refine ⟨isFinite_eq_true.2 ⟨_, _, whole⟩, roundAnswer?_integer whole fun minus => ?_⟩
  have negative := of_decide_eq_true minus
  omega

theorem roundedExactly_near (negative : Bool) (units : Nat) :
    |(roundedExactly negative units : ℚ) - signed negative units / one| <= 1 / 2 := by
  unfold roundedExactly
  generalize (signed negative units : ℚ) / one = value
  have low := Int.floor_le (value + 1 / 2)
  have high := Int.lt_floor_add_one (value + 1 / 2)
  rw [abs_le]
  constructor <;> linarith

theorem roundedExactly_integer (negative : Bool) (n : Nat) : roundedExactly negative (n * one) = signed negative n := by
  have scaled : signed negative (n * one) = signed negative n * one := by
    unfold signed
    generalize one = unit
    cases negative <;> simp
  rw [roundedExactly, scaled, Int.cast_mul, Int.cast_natCast, mul_div_assoc, div_self one_pos.ne', mul_one,
    Int.floor_eq_iff]
  constructor <;> linarith

theorem roundedExactly_of_integer? (same : exactly x = .finite negative units) (value : Int)
    (whole : integer? x = some value) : roundedExactly negative units = value := by
  have parts := Nat.div_mul_cancel (Nat.dvd_of_mod_eq_zero (whole_of_integer? same (by rw [whole]; rfl)))
  rw [← parts] at same ⊢
  rw [integer?_of_whole same, Option.some.injEq] at whole
  rw [roundedExactly_integer, ← whole, signed]

end Doubles

section Calls

def roundDerivation (negative : Bool) (digits : List Char) : Derivation (.form .sum) :=
  .chain .sum (.chain .product (.unsigned (.bare (.call "round".toList
    (.arguments (decimalDerivation negative digits) .noFurtherArguments)))) (.noFurther .product)) (.noFurther .sum)

theorem print_roundDerivation (negative : Bool) (digits : List Char) :
    (roundDerivation negative digits).print = "round(".toList ++ (sign negative ++ (digits ++ [')'])) := by
  cases negative <;> simp [Derivation.print, printed, roundDerivation, decimalDerivation, Lexeme.text, sign] <;>
    decide

variable (ascii : AsciiDigits digits)
include ascii

theorem plain_roundDerivation (negative : Bool) : (roundDerivation negative digits).Plain := by
  intro text member
  have same : text = digits := by
    cases negative <;> simpa [roundDerivation, decimalDerivation] using member
  rw [same]
  exact .whole ascii.present ascii.all

theorem numeral_integer (same : exactly x = .finite false (ofDigits digits * one)) : doubles.numeral digits = x := by
  obtain ⟨representable, below⟩ := exactly_units same
  have decimal := exactly_ofDecimal (ofDigits digits) 0
  rw [zpow_zero, mul_one, ← Nat.cast_mul, nearestExact_natCast representable below] at decimal
  change (unsignedDecimal? digits).getD notANumber = x
  rw [unsignedDecimal?_whole ascii, Option.getD_some]
  exact eq_of_exactly decimal same

theorem value_round (same : exactly x = .finite false (ofDigits digits * one)) (negative : Bool) :
    exists answer, value ("round(".toList ++ (sign negative ++ (digits ++ [')']))) = .ok answer ∧
      integer? answer = some (signed negative (ofDigits digits) + overshoot negative (ofDigits digits * one)) := by
  obtain ⟨operand, operandEq, operandSame⟩ : exists operand, operand = (if negative then -x else x) ∧
      exactly operand = .finite negative (ofDigits digits * one) := by
    cases negative with
    | false => exact ⟨x, rfl, same⟩
    | true => exact ⟨-x, rfl, exactly_neg same⟩
  obtain ⟨tree, content, valued⟩ : exists tree, (roundDerivation negative digits).content? surface? = some tree ∧
      tree.value doubles = .ok (roundHalfUp operand) := by
    rw [operandEq, ← numeral_integer ascii same]
    cases negative with
    | false => exact ⟨.apply .round (.numeral digits), rfl, rfl⟩
    | true => exact ⟨.apply .round (.signed true (.numeral digits)), rfl, rfl⟩
  have shallow : (roundDerivation negative digits).depth <= Parser.maxDepth := by
    cases negative <;> exact Nat.le_of_ble_eq_true rfl
  obtain ⟨finite, stays⟩ := roundAnswer?_roundHalfUp (isFinite_eq_true.2 ⟨_, _, operandSame⟩)
  obtain ⟨answer, answers, evaluated⟩ :=
    ((roundDerivation negative digits).value_print tree (plain_roundDerivation ascii negative) content shallow).1
      _ valued finite
  obtain rfl := Option.some.inj (answers.symm.trans stays)
  have rounded := integer?_roundHalfUp operandSame
  rw [print_roundDerivation] at evaluated
  rw [roundedExactly_integer] at rounded
  exact ⟨_, evaluated, rounded⟩

end Calls

/-- Rounding a double gives the integer that its exact sum with a half is cut to, which is at most one half
away and is the double itself where that is an integer; the call with an integer that is a double gives the
integer. In both, the result is the next integer where the sum with a half overshoots: for the greatest double
below one half and for odd integers from 2^52 to 2^53. -/
theorem round_to_nearest (same : exactly x = .finite negative units) :
    integer? (roundHalfUp x) =
        some (⌊(signed negative units : ℚ) / one + 1 / 2⌋ + if Overshoots negative units then 1 else 0) ∧
      |(⌊(signed negative units : ℚ) / one + 1 / 2⌋ : ℚ) - signed negative units / one| <= 1 / 2 ∧
      (forall n, integer? x = some n -> ⌊(signed negative units : ℚ) / one + 1 / 2⌋ = n) ∧
      forall digits, AsciiDigits digits -> ofDigits digits * one = units ->
        exists answer, value ("round(".toList ++ (sign negative ++ (digits ++ [')']))) = .ok answer ∧
          integer? answer =
            some (signed negative (ofDigits digits) + if Overshoots negative units then 1 else 0) := by
  refine ⟨integer?_roundHalfUp same, roundedExactly_near negative units, roundedExactly_of_integer? same, ?_⟩
  intro digits ascii whole
  rw [← whole] at same ⊢
  exact value_round ascii (exactly_abs same) negative

theorem round_to_nearest_overshoots :
    integer? (roundHalfUp 0.49999999999999994) = some 1 ∧
      exists answer, value "round(4503599627370497)".toList = .ok answer ∧ integer? answer = some 4503599627370498 := by
  have tiny : exactly 0.49999999999999994 = .finite false ((2 ^ 53 - 1) * twoTo 1020) := by decide +kernel
  have odd : exactly 4503599627370497.0 = .finite false (4503599627370497 * one) := by decide +kernel
  have digits : AsciiDigits "4503599627370497".toList := ⟨by decide, by decide⟩
  constructor
  next =>
    rw [(round_to_nearest tiny).1]
    decide +kernel
  next =>
    obtain ⟨_, _, _, calls⟩ := round_to_nearest odd
    obtain ⟨answer, evaluated, whole⟩ := calls _ digits (by decide +kernel)
    refine ⟨answer, evaluated, whole.trans ?_⟩
    decide +kernel

end SpokenArithmetic.Evaluation
