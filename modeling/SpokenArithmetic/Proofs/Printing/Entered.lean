import SpokenArithmetic.Proofs.Printing.Displayed

set_option autoImplicit false

namespace SpokenArithmetic.Evaluation

open Arithmetic Number Text

section Integers

variable {x : Float} {negative : Bool} {n units : Nat} {steps : Int} {q : ℚ}

theorem exactly_quotient_below (below : steps.natAbs < halfAbove 970) :
    exactly (ofInt steps / answerScale) =
      .finite (decide (steps < 0)) (nearest (nearest (steps.natAbs * one) / 1000000)) :=
  exactly_nearest (isFinite_div_scale (isFinite_ofInt below)) (exactly_quotient (exactly_ofInt_below below))

theorem million_le_quotient (large : 10 ^ 12 <= n) :
    1000000 * one <= nearest (nearest (n * one) / 1000000) := by
  obtain ⟨whole, _⟩ := @representable_integer (10 ^ 12) (by decide)
  obtain ⟨million, _⟩ := @representable_integer 1000000 (by decide)
  have least : 10 ^ 12 * one <= nearest (n * one) :=
    le_nearest whole (by exact_mod_cast Nat.mul_le_mul_right one large)
  have cast : ((10 ^ 12 * one : Nat) : ℚ) <= nearest (n * one) := by exact_mod_cast least
  refine le_nearest million ?_
  rw [Nat.cast_mul] at cast ⊢
  rw [le_div_iff₀ (by norm_num)]
  generalize (one : ℚ) = unit at cast ⊢
  push_cast at cast ⊢
  linarith

theorem million_le_exact (same : exactly x = .finite negative units) (large : exactFrom <= (x * answerScale).abs) :
    1000000 * one <= units := by
  obtain ⟨whole, _⟩ := @representable_integer (10 ^ 12) (by decide)
  by_contra small
  have most : nearest (units * 1000000) <= 10 ^ 12 * one := by
    refine nearest_le whole (mul_nonneg (Nat.cast_nonneg _) (by norm_num)) ?_
    have product : units * 1000000 <= 1000000 * one * 1000000 := Nat.mul_le_mul_right _ (Nat.le_of_not_le small)
    have regrouped : 1000000 * one * 1000000 = 10 ^ 12 * one := by
      rw [Nat.mul_right_comm, show 1000000 * 1000000 = 10 ^ 12 from rfl]
    rw [regrouped] at product
    exact_mod_cast product
  obtain ⟨_, limit⟩ := exactly_units exactly_exactFrom
  have below : 10 ^ 12 * one < 2 ^ 53 * one :=
    Nat.mul_lt_mul_of_pos_right (by decide) (Nat.cast_pos.1 Arithmetic.one_pos)
  have scaled := (exactly_scaled same).trans (nearestExact_finite (most.trans_lt (below.trans limit)) negative)
  have order := (le_iff exactly_exactFrom (exactly_abs scaled)).1 large
  omega

end Integers

section Settled

variable {x answer : Float} {negative : Bool} {n units : Nat} {steps : Int}

/-- An answer that is an integer, or has a fraction and is below a million. -/
inductive Settled : Float -> Prop where
  | integer {answer : Float} {negative : Bool} {n : Nat} (same : exactly answer = .finite negative (n * one))
    (sign : negative = true -> 0 < n) : Settled answer
  | fraction {steps : Int} (some : steps ≠ 0) (small : steps.natAbs < 10 ^ 12)
    (part : nearest (stepped steps.natAbs) % one ≠ 0) : Settled (ofInt steps / answerScale)

theorem Settled.of_whole (same : exactly x = .finite negative units) (whole : units % one = 0)
    (sign : negative = true -> 0 < units) : Settled x := by
  have parts : units / one * one = units := Nat.div_mul_cancel (Nat.dvd_of_mod_eq_zero whole)
  rw [← parts] at same
  refine .integer same fun minus => ?_
  have some := sign minus
  rw [← parts] at some
  exact Nat.pos_of_mul_pos_right some

theorem whole_of_integer? (same : exactly x = .finite negative units) (found : (integer? x).isSome = true) :
    units % one = 0 := by
  unfold integer? at found
  rw [same] at found
  dsimp only at found
  split at found
  next whole => exact whole
  next => cases found

theorem exactly_million : exactly (1000000.0 : Float) = .finite false (1000000 * one) := by
  decide +kernel

theorem Settled.of_large (same : exactly x = .finite negative units) (large : 1000000 * one <= units)
    (range : (integer? x).isSome = true ∨ x.abs < 1000000.0) : Settled x := by
  have unit : 0 < one := Nat.cast_pos.1 Arithmetic.one_pos
  rcases range with found | below
  next => exact .of_whole same (whole_of_integer? same found) fun _ => by omega
  next =>
    have order := (lt_iff (exactly_abs same) exactly_million).1 below
    omega

theorem Settled.of_steps (small : steps.natAbs < 10 ^ 12) : Settled (ofInt steps / answerScale) := by
  have same := exactly_steps (show steps.natAbs < 2 ^ 53 by omega)
  by_cases part : nearest (stepped steps.natAbs) % one = 0
  next =>
    refine .of_whole same part fun negative => ?_
    have minus := of_decide_eq_true negative
    obtain ⟨least, _⟩ := quotient_near (show 0 < steps.natAbs by omega) (by omega)
    have positive := Nat.mul_pos (show 0 < 4 * steps.natAbs - 1 by omega) quarter_pos
    omega
  next =>
    refine .fraction (fun zero => part ?_) small part
    have none : stepped 0 = 0 := by rw [stepped, Nat.cast_zero, zero_div, zero_mul]
    rw [zero, Int.natAbs_zero, none, nearest_zero, Nat.zero_mod]

theorem settled_of_rounds (finite : isFinite x = true) (rounds : roundAnswer? x = some answer)
    (range : (integer? answer).isSome = true ∨ answer.abs < 1000000.0) : Settled answer := by
  obtain ⟨negative, units, same⟩ := isFinite_eq_true.1 finite
  unfold roundAnswer? at rounds
  dsimp only at rounds
  split at rounds
  next large =>
    obtain rfl := Option.some.inj rounds
    exact .of_large same (million_le_exact same large) range
  next =>
    obtain ⟨steps, found, rfl⟩ := Option.map_eq_some_iff.1 rounds
    obtain ⟨_, floored, below⟩ := floor?_below (isFinite_of_floor? found)
    obtain rfl := Option.some.inj (found.symm.trans floored)
    by_cases small : steps.natAbs < 10 ^ 12
    next => exact .of_steps small
    next => exact .of_large (exactly_quotient_below below) (million_le_quotient (not_lt.1 small)) range

end Settled

section Display

variable {x : Float} {negative : Bool} {n units : Nat} {steps : Int} {text : List Char} {q : ℚ}

theorem toString_signed (sign : negative = true -> 0 < n) :
    (toString (signed negative n)).toList = Number.sign negative ++ toDigits n := by
  cases negative with
  | false => exact shown_toDigits n
  | true =>
    obtain ⟨before, rfl⟩ := Nat.exists_eq_add_one.2 (sign rfl)
    have minus : signed true (before + 1) = .negSucc before := by
      rw [signed, if_pos rfl]
      omega
    rw [minus]
    change ("-" ++ toString (before + 1)).toList = _
    rw [String.toList_append, shown_toDigits]
    rfl

theorem display_integer (same : exactly x = .finite negative (n * one)) (sign : negative = true -> 0 < n) :
    (display x).toList = Number.sign negative ++ toDigits n := by
  have unit : 0 < one := Nat.cast_pos.1 Arithmetic.one_pos
  have floored : floorUnits negative (n * one) = signed negative n := by
    cases negative with
    | false => exact floorUnits_positive le_rfl (by rw [Nat.add_mul, Nat.one_mul]; omega)
    | true => exact floorUnits_negative (by omega) le_rfl
  unfold display
  rw [same]
  dsimp only
  rw [if_pos (Nat.mul_mod_left n one), floored, toString_signed sign]

theorem exactly_exponentialFrom : exactly exponentialFrom = .finite false (1000000 * one) := by
  decide +kernel

theorem exactly_exponentialBelow : exactly exponentialBelow = .finite false (nearest (stepped 100)) := by
  have same : exactly exponentialBelow = exactly (ofInt 100 / answerScale) := by decide +kernel
  rw [same]
  exact exactly_steps (by decide)

theorem stepped_mono {low high : Nat} (le : low <= high) : stepped low <= stepped high := by
  have cast : (low : ℚ) <= high := by exact_mod_cast le
  exact mul_le_mul_of_nonneg_right (div_le_div_of_nonneg_right cast (by norm_num)) Arithmetic.one_pos.le

theorem nearest_stepped_lt (some : 0 < n) (small : n < 10 ^ 12) : nearest (stepped n) < 1000000 * one := by
  obtain ⟨_, most⟩ := quotient_near some (by omega)
  have below : (4 * n + 1) * quarter < 4 * 10 ^ 12 * quarter := Nat.mul_lt_mul_of_pos_right (by omega) quarter_pos
  have unit := one_quarters
  omega

theorem display_fraction (same : exactly x = .finite negative (nearest (stepped n)))
    (part : nearest (stepped n) % one ≠ 0) (some : 0 < n) (small : n < 10 ^ 12) :
    exists text, (display x).toList = Number.sign negative ++ text ∧ StandsFor text (n / 1000000) := by
  have magnitude := exactly_abs same
  have low : ¬ exponentialFrom <= x.abs := by
    rw [le_iff exactly_exponentialFrom magnitude, not_le]
    exact nearest_stepped_lt some small
  unfold display
  rw [same]
  dsimp only
  rw [if_neg part]
  by_cases tiny : x.abs < exponentialBelow
  next =>
    have few : n < 100 := by
      by_contra many
      have order := (lt_iff magnitude exactly_exponentialBelow).1 tiny
      have mono := nearest_mono (stepped_nonneg 100) (stepped_mono (not_lt.1 many))
      omega
    have short : (toDigits n).length <= 5 := (length_toDigits_le (by decide)).2 (by omega)
    refine ⟨_, ?_, standsFor_exponential some short⟩
    rw [if_pos (by simp [tiny]), String.toList_ofList]
  next =>
    refine ⟨_, ?_, standsFor_fixed some (by omega)⟩
    rw [if_neg (by simp [tiny, low]), String.toList_ofList]

theorem value_standsFor (stands : StandsFor text q) (same : exactly x = .finite negative units)
    (near : nearest (q * one) = units) (rounds : roundAnswer? x = some x) :
    value (Number.sign negative ++ text) = .ok x := by
  obtain ⟨mantissa, exponent, literal, rfl⟩ := stands
  have decimal := exactly_ofDecimal mantissa exponent
  rw [nearestExact, near, if_pos (exactly_units same).2] at decimal
  have read : (if negative then -(ofDecimal mantissa exponent) else ofDecimal mantissa exponent) = x := by
    cases negative with
    | false => exact eq_of_exactly decimal same
    | true => exact eq_of_exactly (exactly_neg decimal) same
  have finite : isFinite x = true := isFinite_eq_true.2 ⟨_, _, same⟩
  rw [literal.value_eq negative, read, rounded, if_pos finite, rounds]

theorem Settled.entered (settled : Settled x) : value (display x).toList = .ok x := by
  cases settled with
  | @integer _ _ n same sign =>
    have own : nearest ((n : ℚ) * one) = n * one := by
      rw [← Nat.cast_mul, nearest_natCast (exactly_units same).1]
    rw [display_integer same sign]
    exact value_standsFor (standsFor_whole n) same own (roundAnswer?_integer same sign)
  | @fraction steps some small part =>
    have same := exactly_steps (show steps.natAbs < 2 ^ 53 by omega)
    obtain ⟨text, shown, stands⟩ := display_fraction same part (by omega) small
    rw [shown]
    exact value_standsFor stands same rfl (roundAnswer?_steps some (by omega))

theorem rounds_of_value {text : List Char} {answer : Float} (answered : value text = .ok answer) :
    exists result, isFinite result = true ∧ roundAnswer? result = some answer := by
  rw [value_eq_rounded] at answered
  split at answered
  next => cases answered
  next =>
    split at answered
    next => cases answered
    next =>
      unfold rounded at answered
      split at answered
      next => cases answered
      next result _ =>
        by_cases finite : isFinite result = true
        next =>
          rw [if_pos finite] at answered
          split at answered
          next rounds =>
            obtain rfl := Except.ok.inj answered
            exact ⟨result, finite, rounds⟩
          next => cases answered
        next =>
          rw [if_neg finite] at answered
          cases answered

/-- The answer to an expression, if it is an integer or below a million, is also the value of what is
shown of it. -/
theorem value_display (text : List Char) (answer : Float) (answered : value text = .ok answer)
    (range : (integer? answer).isSome = true ∨ answer.abs < 1000000.0) :
    value (display answer).toList = .ok answer := by
  obtain ⟨result, finite, rounds⟩ := rounds_of_value answered
  exact (settled_of_rounds finite rounds range).entered

theorem value_display_tiny :
    exists answer, value "1/30000".toList = .ok answer ∧ answer.abs < 1000000.0 ∧
      (display answer).toList = "3.3000e-5".toList ∧ value (display answer).toList = .ok answer := by
  have evaluated : (value "1/30000".toList).toOption.any
      (fun answer => decide (answer.abs < 1000000.0) && display answer == "3.3000e-5") = true := by
    decide +kernel
  cases answered : value "1/30000".toList with
  | error failure =>
    rw [answered] at evaluated
    cases evaluated
  | ok answer =>
    rw [answered] at evaluated
    obtain ⟨small, shown⟩ := Bool.and_eq_true_iff.1 evaluated
    have below := of_decide_eq_true small
    exact ⟨answer, rfl, below, congrArg _ (beq_iff_eq.1 shown), value_display _ answer answered (.inr below)⟩

end Display

end SpokenArithmetic.Evaluation
