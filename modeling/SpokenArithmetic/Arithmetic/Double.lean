import SpokenArithmetic.Expression.Basic
import SpokenArithmetic.Number.Read
import SpokenArithmetic.Number.Written

set_option autoImplicit false

namespace SpokenArithmetic.Arithmetic

open Number

inductive MathFault where
  | domain
  | range
  deriving DecidableEq, Repr

/-- Functions whose last bit a mathematical library decides. -/
structure Elementary where
  sqrt : Float -> Except MathFault Float
  sin : Float -> Except MathFault Float
  cos : Float -> Except MathFault Float
  tan : Float -> Except MathFault Float
  ln : Float -> Except MathFault Float
  log10 : Float -> Except MathFault Float
  cbrt : Float -> Except MathFault Float
  pow : Float -> Float -> Except MathFault Float

def isInfinite (x : Float) : Bool :=
  match exactly x with
  | .infinite _ => true
  | _ => false

def reported (function : Float -> Float) (x : Float) : Except MathFault Float :=
  let result := function x
  if isNan result && !isNan x || isInfinite result && isFinite x then .error .domain else .ok result

-- Of finite arguments, zero alone has an infinite power that is no overflow.
def reportedPower (power : Float -> Float -> Float) (base exponent : Float) : Except MathFault Float :=
  let result := power base exponent
  if isFinite base && isFinite exponent && !isFinite result then
    .error (if isNan result || base == 0.0 then .domain else .range)
  else .ok result

def elementary : Elementary :=
  { sqrt := reported Float.sqrt, sin := reported Float.sin, cos := reported Float.cos
    tan := reported Float.tan, ln := reported Float.log, log10 := reported Float.log10
    cbrt := reported Float.cbrt, pow := reportedPower Float.pow }

def domainSafe (function : Float -> Except MathFault Float) (x : Float) : Float :=
  match function x with
  | .ok result => result
  | .error .domain => notANumber
  | .error .range => infinity

def logarithm (function : Float -> Except MathFault Float) (x : Float) : Float :=
  if x == 0.0 then -infinity else domainSafe function x

/-- The remainder with the sign of the dividend; a divisor of zero leaves it undefined. -/
def modulo (a b : Float) : Float :=
  match exactly a, exactly b with
  | .finite negative units, .finite _ divisor =>
    if divisor = 0 then notANumber else ofUnits negative (units % divisor)
  | .finite _ _, .infinite _ => a
  | _, _ => notANumber

-- Only odd powers keep the sign of a negative base.
def isOdd (x : Float) : Bool :=
  (integer? x).any (· % 2 == 1)

/-- A power. One that is too large is infinite, and so is zero to a negative power, without a sign. -/
def power (library : Elementary) (base exponent : Float) : Float :=
  match library.pow base exponent with
  | .ok result => result
  | .error .range => if base < 0.0 && isOdd exponent then -infinity else infinity
  | .error .domain => if base == 0.0 then infinity else notANumber

def floor (x : Float) : Float :=
  ((floor? x).map ofInt).getD x

def ceil (x : Float) : Float :=
  ((ceil? x).map ofInt).getD x

def roundHalfUp (x : Float) : Float :=
  if isFinite x then floor (x + 0.5) else x

/-- The real cube root. An integer whose cube the argument is comes back exactly. -/
def cubeRoot (library : Elementary) (x : Float) : Float :=
  if isFinite x then
    match library.cbrt x with
    | .error _ => notANumber
    | .ok root =>
      match nearest? root with
      | some nearest => if integer? x = some (nearest * nearest * nearest) then ofInt nearest else root
      | none => root
  else x

inductive Refusal where
  | negative (argument : Float)
  | fractional (argument : Float)
  | overflow (argument : Float)
  deriving DecidableEq

def maxFactorial : Nat := 170

def Refusal.message : Refusal -> String
  | negative argument => "Factorial not defined for negative numbers: " ++ written argument
  | fractional argument => "Factorial only defined for integers: " ++ written argument
  | overflow argument => "Factorial overflow: " ++ written argument ++ s!" > {maxFactorial}"

def refuseFactorial? (n : Float) : Option Refusal :=
  if isNan n || n < 0.0 then some (.negative n)
  else
    match integer? n with
    | none => some (.fractional n)
    | some value => if (maxFactorial : Int) < value then some (.overflow n) else none

def factorial (n : Float) : Float :=
  let count := ((integer? n).getD 0).toNat
  (List.range' 2 (count - 1)).foldl (fun product k => product * Float.ofNat k) 1.0

def operate (library : Elementary) : Operator -> Float -> Float -> Float
  | .add => (· + ·)
  | .subtract => (· - ·)
  | .multiply => (· * ·)
  | .divide => (· / ·)
  | .modulo => modulo
  | .power => power library

def apply (library : Elementary) : Function -> Float -> Float
  | .sqrt => domainSafe library.sqrt
  | .cbrt => cubeRoot library
  | .abs => Float.abs
  | .sin => domainSafe library.sin
  | .cos => domainSafe library.cos
  | .tan => domainSafe library.tan
  | .log => logarithm library.log10
  | .ln => logarithm library.ln
  | .floor => floor
  | .ceil => ceil
  | .round => roundHalfUp
  | .fact => factorial

def meaning (library : Elementary) : Meaning Float Refusal :=
  { numeral := fun text => (unsignedDecimal? text).getD notANumber
    negate := fun x => -x
    operate := operate library
    apply := apply library
    refuse? := refuseFactorial? }

def answerScale : Float := 1000000.0

def exactFrom : Float := 9007199254740992.0

/-- Rounds to six decimal places, a half up; there is no rounding of an undefined value. -/
def roundAnswer? (x : Float) : Option Float :=
  let scaled := x * answerScale
  if exactFrom <= scaled.abs then some x
  else (floor? (scaled + 0.5)).map fun steps => ofInt steps / answerScale

end SpokenArithmetic.Arithmetic
