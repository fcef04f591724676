import SpokenArithmetic.Proofs.Arithmetic.Finite
import SpokenArithmetic.Proofs.Grammar.Value
import SpokenArithmetic.Proofs.Lexing.Literals

set_option autoImplicit false

namespace SpokenArithmetic.Arithmetic

open Number

inductive Fault where
  | math (fault : MathFault)
  | division
  deriving DecidableEq, Repr

namespace Attempt

def quotient (a b : Float) : Except Fault Float :=
  if b == 0.0 then .error .division else .ok (a / b)

def isNegative (x : Float) : Bool :=
  x.toBits.toNat / twoTo 63 == 1

def copySign (magnitude sign : Float) : Float :=
  if isNegative sign then -magnitude.abs else magnitude.abs

def divide (a b : Float) : Except Fault Float :=
  if b == 0.0 then
    if a == 0.0 || isNan a then .ok notANumber else .ok (copySign infinity a * copySign 1.0 b)
  else quotient a b

def remainder (a b : Float) : Except Fault Float :=
  if isNan a || isNan b then .ok notANumber
  else if isInfinite a || b == 0.0 then .error (.math .domain)
  else .ok (Arithmetic.modulo a b)

def modulo (a b : Float) : Except Fault Float :=
  if b == 0.0 || isInfinite a || isNan a || isNan b then .ok notANumber else remainder a b

def whole (x : Float) (integer : Option Int) : Except Fault Int :=
  match integer with
  | some value => .ok value
  | none => .error (.math (if isNan x then .domain else .range))

def double (value : Int) : Except Fault Float :=
  if isFinite (ofInt value) then .ok (ofInt value) else .error (.math .range)

def floor (x : Float) : Except Fault Float := do
  if isFinite x then
    let value <- whole x (floor? x)
    double value
  else return x

def ceil (x : Float) : Except Fault Float := do
  if isFinite x then
    let value <- whole x (ceil? x)
    double value
  else return x

def roundHalfUp (x : Float) : Except Fault Float := do
  if isFinite x then
    let value <- whole (x + 0.5) (floor? (x + 0.5))
    double value
  else return x

def cubeRoot (library : Elementary) (x : Float) : Except Fault Float := do
  if isFinite x then
    let root <- (library.cbrt x).mapError .math
    let nearest <- whole root (nearest? root)
    if integer? x = some (nearest * nearest * nearest) then double nearest else return root
  else return x

def power (library : Elementary) (base exponent : Float) : Except Fault Float := do
  match library.pow base exponent with
  | .ok result => return result
  | .error .range =>
    if base < 0.0 && (integer? exponent).isSome then
      let value <- whole exponent (integer? exponent)
      return if value % 2 = 1 then -infinity else infinity
    else return infinity
  | .error .domain => return if base == 0.0 then infinity else notANumber

def factorial (n : Float) : Except Fault Float := do
  let _ <- whole n (integer? n)
  return Arithmetic.factorial n

def numeral (text : List Char) : Except Fault Float :=
  match unsignedDecimal? text with
  | some value => .ok value
  | none => .error (.math .domain)

def operate (library : Elementary) : Operator -> Float -> Float -> Except Fault Float
  | .add => fun a b => .ok (a + b)
  | .subtract => fun a b => .ok (a - b)
  | .multiply => fun a b => .ok (a * b)
  | .divide => divide
  | .modulo => modulo
  | .power => power library

def apply (library : Elementary) : Function -> Float -> Except Fault Float
  | .sqrt => fun x => .ok (domainSafe library.sqrt x)
  | .cbrt => cubeRoot library
  | .abs => fun x => .ok x.abs
  | .sin => fun x => .ok (domainSafe library.sin x)
  | .cos => fun x => .ok (domainSafe library.cos x)
  | .tan => fun x => .ok (domainSafe library.tan x)
  | .log => fun x => .ok (logarithm library.log10 x)
  | .ln => fun x => .ok (logarithm library.ln x)
  | .floor => floor
  | .ceil => ceil
  | .round => roundHalfUp
  | .fact => factorial

def scaledBack (steps : Int) : Except Fault Float :=
  if isFinite (ofInt steps / answerScale) then .ok (ofInt steps / answerScale) else .error (.math .range)

def roundAnswer (x : Float) : Except Fault Float := do
  let scaled := x * answerScale
  if exactFrom <= scaled.abs then return x
  else
    let steps <- whole (scaled + 0.5) (floor? (scaled + 0.5))
    scaledBack steps

end Attempt

section Division

open Float.Model (UnpackedFloat Format)

variable {x a b : Float} {negative divisor : Bool} {units : Nat}

theorem isNegative_of_finite (same : exactly x = .finite negative units) : Attempt.isNegative x = negative := by
  rw [exactly_fields] at same
  unfold ofFields at same
  split at same
  next => split at same <;> cases same
  next => split at same <;> exact (Exact.finite.inj same).1

theorem isNegative_of_infinite (same : exactly x = .infinite negative) : Attempt.isNegative x = negative := by
  rw [exactly_fields] at same
  unfold ofFields at same
  split at same
  next =>
    split at same
    next => exact Exact.infinite.inj same
    next => cases same
  next => split at same <;> cases same

theorem exactly_of_beq_zero (zero : (x == 0.0) = true) : exists negative, exactly x = .finite negative 0 := by
  have none : (0.0 : Float).toModel.unpack = .zero .positive := rfl
  have compared : UnpackedFloat.compare x.toModel.unpack (0.0 : Float).toModel.unpack = some .eq :=
    beq_iff_eq.1 zero
  rw [none, unpack_eq] at compared
  cases same : exactly x with
  | nan =>
    rw [same] at compared
    cases compared
  | infinite negative =>
    rw [same] at compared
    cases negative <;> cases compared
  | finite negative units =>
    rw [same, unpackedExact] at compared
    rcases unpackedOf_cases (exactly_units same).1 (modelSign negative) with ⟨rfl, _⟩ |
      ⟨mantissa, places, positive, parts, _⟩
    next => exact ⟨negative, rfl⟩
    next =>
      rw [parts] at compared
      cases negative <;> cases compared

-- With a divisor of zero, the signs of both operands decide which infinity the quotient is.
theorem div_zero (minus : Attempt.isNegative a = negative) (zero : exactly b = .finite divisor 0)
    (unpacked : a.toModel.unpack = .infinity (modelSign negative) ∨
      exists mantissa exponent positive, a.toModel.unpack = .finite (modelSign negative) mantissa exponent positive) :
    a / b = Attempt.copySign infinity a * Attempt.copySign 1.0 b := by
  have packed : (a / b).toModel =
      Float.Model.pack (UnpackedFloat.div Format.binary64 a.toModel.unpack b.toModel.unpack) := rfl
  have none : b.toModel.unpack = .zero (modelSign divisor) := by
    rw [unpack_eq, zero]
    rfl
  have quotient : a / b = Float.ofModel (Float.Model.pack (.infinity (modelSign negative / modelSign divisor))) := by
    rcases unpacked with unpacked | ⟨mantissa, exponent, positive, unpacked⟩ <;>
      rw [unpacked, none] at packed <;> exact congrArg Float.ofModel packed
  rw [quotient, Attempt.copySign, Attempt.copySign, minus, isNegative_of_finite zero]
  cases negative <;> cases divisor <;> rfl

theorem divide_eq (a b : Float) : Attempt.divide a b = .ok (a / b) := by
  have packed : (a / b).toModel =
      Float.Model.pack (UnpackedFloat.div Format.binary64 a.toModel.unpack b.toModel.unpack) := rfl
  unfold Attempt.divide Attempt.quotient
  split
  next zero =>
    obtain ⟨divisor, none⟩ := exactly_of_beq_zero zero
    split
    next undefined =>
      have both : UnpackedFloat.div Format.binary64 a.toModel.unpack b.toModel.unpack = .notANumber := by
        rw [unpack_eq, unpack_eq, none]
        rcases Bool.or_eq_true_iff.1 undefined with zero | undefined
        next =>
          obtain ⟨negative, same⟩ := exactly_of_beq_zero zero
          rw [same]
          rfl
        next =>
          rw [beq_iff_eq.1 undefined]
          rfl
      rw [both] at packed
      exact congrArg Except.ok (congrArg Float.ofModel packed).symm
    next defined =>
      have unpacked := unpack_eq a
      cases same : exactly a with
      | nan => exact absurd (Bool.or_eq_true_iff.2 (.inr (beq_iff_eq.2 same))) defined
      | infinite negative =>
        rw [same] at unpacked
        exact congrArg Except.ok (div_zero (isNegative_of_infinite same) none (.inl unpacked)).symm
      | finite negative units =>
        rw [same, unpackedExact] at unpacked
        rcases unpackedOf_cases (exactly_units same).1 (modelSign negative) with ⟨_, zero⟩ | ⟨_, _, _, parts, _⟩
        next =>
          have zero : (a == 0.0) = true := by
            change UnpackedFloat.compare a.toModel.unpack (.zero .positive) == some .eq
            rw [unpacked, zero]
            rfl
          exact absurd (Bool.or_eq_true_iff.2 (.inl zero)) defined
        next =>
          rw [parts] at unpacked
          exact congrArg Except.ok (div_zero (isNegative_of_finite same) none (.inr ⟨_, _, _, unpacked⟩)).symm
  next => rfl

end Division

section Integers

variable {x : Float}

theorem double_eq {value : Int} (below : value.natAbs < halfAbove 970) :
    Attempt.double value = .ok (ofInt value) := by
  rw [Attempt.double, if_pos (isFinite_ofInt below)]

theorem roundHalfEven_le (numerator denominator : Nat) :
    roundHalfEven numerator denominator <= numerator / denominator + 1 := by
  unfold roundHalfEven
  dsimp only
  split
  next => exact Nat.le_succ _
  next =>
    split
    next => exact Nat.le_refl _
    next => split <;> omega

theorem ceil?_below (finite : isFinite x = true) :
    exists value, ceil? x = some value ∧ value.natAbs < halfAbove 970 := by
  obtain ⟨negative, units, same⟩ := isFinite_eq_true.1 finite
  have below := units_below same
  have bound := natAbs_floorUnits_le (!negative) units
  refine ⟨-floorUnits (!negative) units, ?_, by omega⟩
  rw [ceil?, same]

theorem nearest?_below (finite : isFinite x = true) :
    exists value, nearest? x = some value ∧ value.natAbs < halfAbove 970 := by
  obtain ⟨negative, units, same⟩ := isFinite_eq_true.1 finite
  have below := units_below same
  have bound := roundHalfEven_le units one
  refine ⟨if negative then -(roundHalfEven units one : Int) else roundHalfEven units one, ?_, ?_⟩
  next => rw [nearest?, same]
  next => split <;> omega

theorem floor_eq (x : Float) : Attempt.floor x = .ok (floor x) := by
  unfold Attempt.floor floor
  split
  next finite =>
    obtain ⟨value, found, below⟩ := floor?_below finite
    rw [found, Attempt.whole, ok_bind, double_eq below]
    rfl
  next infinite =>
    have none : floor? x = none :=
      Option.eq_none_iff_forall_ne_some.2 fun _ found => infinite (isFinite_of_floor? found)
    rw [none]
    rfl

theorem ceil_eq (x : Float) : Attempt.ceil x = .ok (ceil x) := by
  unfold Attempt.ceil ceil
  split
  next finite =>
    obtain ⟨value, found, below⟩ := ceil?_below finite
    rw [found, Attempt.whole, ok_bind, double_eq below]
    rfl
  next infinite =>
    have none : ceil? x = none := by
      unfold ceil?
      unfold isFinite at infinite
      split at infinite
      next => exact absurd rfl infinite
      next other => rfl
    rw [none]
    rfl

theorem roundHalfUp_eq (x : Float) : Attempt.roundHalfUp x = .ok (roundHalfUp x) := by
  unfold Attempt.roundHalfUp roundHalfUp floor
  split
  next finite =>
    obtain ⟨value, found, below⟩ := floor?_below (isFinite_add_half finite)
    rw [found, Attempt.whole, ok_bind, double_eq below]
    rfl
  next => rfl

/-- The library has a finite cube root of every finite value. -/
def FiniteRoots (library : Elementary) : Prop :=
  forall x, isFinite x = true -> exists root, library.cbrt x = .ok root ∧ isFinite root = true

variable {library : Elementary}

theorem cubeRoot_eq (roots : FiniteRoots library) (x : Float) :
    Attempt.cubeRoot library x = .ok (cubeRoot library x) := by
  unfold Attempt.cubeRoot cubeRoot
  split
  next finite =>
    obtain ⟨root, has, finiteRoot⟩ := roots x finite
    obtain ⟨nearest, found, below⟩ := nearest?_below finiteRoot
    rw [has]
    simp only [Except.mapError, ok_bind, found, Attempt.whole, double_eq below]
    split <;> rfl
  next => rfl

theorem power_eq (base exponent : Float) :
    Attempt.power library base exponent = .ok (power library base exponent) := by
  unfold Attempt.power power isOdd
  cases library.pow base exponent with
  | ok result => rfl
  | error fault =>
    cases fault with
    | domain => rfl
    | range =>
      cases integer? exponent with
      | none => simp; rfl
      | some value =>
        simp only [Attempt.whole, ok_bind, Option.any_some, Option.isSome_some, Bool.and_true]
        by_cases negative : base < 0.0
        next => by_cases odd : value % 2 = 1 <;> simp [negative, odd] <;> rfl
        next => simp [negative]; rfl

theorem factorial_eq {n : Float} (accepted : refuseFactorial? n = none) :
    Attempt.factorial n = .ok (factorial n) := by
  unfold refuseFactorial? at accepted
  split at accepted
  next => cases accepted
  next =>
    split at accepted
    next => cases accepted
    next value found =>
      rw [Attempt.factorial, found, Attempt.whole, ok_bind]
      rfl

end Integers

section Operations

variable {library : Elementary}

theorem modulo_eq (a b : Float) : Attempt.modulo a b = .ok (modulo a b) := by
  unfold Attempt.modulo Attempt.remainder
  split
  next undefined =>
    have none : modulo a b = notANumber := by
      unfold modulo
      split
      next negative units _ divisor first second =>
        have zero : (b == 0.0) = true := by simpa [isInfinite, isNan, first, second] using undefined
        obtain ⟨_, same⟩ := exactly_of_beq_zero zero
        obtain ⟨_, rfl⟩ := Exact.finite.inj (second.symm.trans same)
        rw [if_pos rfl]
      next first second =>
        have zero : (b == 0.0) = true := by simpa [isInfinite, isNan, first, second] using undefined
        obtain ⟨_, same⟩ := exactly_of_beq_zero zero
        cases second.symm.trans same
      next => rfl
    rw [none]
  next defined => simp_all

theorem numeral_eq {text : List Char} {value : Float} (decimal : unsignedDecimal? text = some value) :
    Attempt.numeral text = .ok ((meaning library).numeral text) := by
  simp only [Attempt.numeral, meaning, decimal, Option.getD_some]

theorem operate_eq (library : Elementary) (operator : Operator) (a b : Float) :
    Attempt.operate library operator a b = .ok (operate library operator a b) := by
  cases operator with
  | add => rfl
  | subtract => rfl
  | multiply => rfl
  | divide => exact divide_eq a b
  | modulo => exact modulo_eq a b
  | power => exact power_eq a b

theorem apply_eq (roots : FiniteRoots library) {function : Function} {x : Float}
    (accepted : function = .fact -> refuseFactorial? x = none) :
    Attempt.apply library function x = .ok (apply library function x) := by
  cases function with
  | cbrt => exact cubeRoot_eq roots x
  | floor => exact floor_eq x
  | ceil => exact ceil_eq x
  | round => exact roundHalfUp_eq x
  | fact => exact factorial_eq (accepted rfl)
  | _ => rfl

theorem roundAnswer_eq {x : Float} (finite : isFinite x = true) :
    exists answer, Attempt.roundAnswer x = .ok answer ∧ roundAnswer? x = some answer ∧ isFinite answer = true := by
  obtain ⟨answer, rounded⟩ := roundAnswer?_of_isFinite finite
  unfold roundAnswer? at rounded
  unfold Attempt.roundAnswer
  dsimp only at rounded ⊢
  split at rounded
  next large =>
    obtain rfl := Option.some.inj rounded
    rw [if_pos large, roundAnswer?, if_pos large]
    exact ⟨x, rfl, rfl, finite⟩
  next small =>
    obtain ⟨steps, found, rfl⟩ := Option.map_eq_some_iff.1 rounded
    obtain ⟨value, same, below⟩ := floor?_below (isFinite_of_floor? found)
    obtain rfl := Option.some.inj (found.symm.trans same)
    have quotient := isFinite_div_scale (isFinite_ofInt below)
    refine ⟨ofInt steps / answerScale, ?_, ?_, quotient⟩
    next =>
      rw [if_neg small, found, Attempt.whole, ok_bind, Attempt.scaledBack, if_pos quotient]
    next => rw [roundAnswer?, if_neg small, found, Option.map_some]

end Operations

end SpokenArithmetic.Arithmetic
