import SpokenArithmetic.Number.Power

set_option autoImplicit false

/-!
The exact value of a double. Every finite double is a whole number of units of `2 ^ -1074`, so its
value is a sign and a natural number, and exact arithmetic on doubles is arithmetic on numbers.
-/

namespace SpokenArithmetic.Number

inductive Exact where
  | nan
  | infinite (negative : Bool)
  | finite (negative : Bool) (units : Nat)
  deriving DecidableEq, Repr

def one : Nat := twoTo 1074

def infinity : Float := 1.0 / 0.0

def notANumber : Float := 0.0 / 0.0

def exactly (x : Float) : Exact :=
  let bits := x.toBits.toNat
  let negative := bits / twoTo 63 == 1
  let exponent := bits / twoTo 52 % twoTo 11
  let fraction := bits % twoTo 52
  if exponent = 2047 then
    if fraction = 0 then .infinite negative else .nan
  else if exponent = 0 then .finite negative fraction
  else .finite negative ((twoTo 52 + fraction) * twoTo (exponent - 1))

/-- The places by which the 53 leading bits of a number of units are shifted. -/
def shiftOf (units : Nat) : Nat :=
  units.log2 - 52

/-- The double of so many units, of which only the 53 leading bits may be set. -/
def ofUnits (negative : Bool) (units : Nat) : Float :=
  let shift := shiftOf units
  let magnitude := shift * twoTo 52 + units / twoTo shift
  Float.ofBits (UInt64.ofNat ((if negative then twoTo 63 else 0) + magnitude))

def floorUnits (negative : Bool) (units : Nat) : Int :=
  (if negative then -(units : Int) else (units : Int)) / (one : Int)

def isFinite (x : Float) : Bool :=
  match exactly x with
  | .finite _ _ => true
  | _ => false

def isNan (x : Float) : Bool :=
  exactly x == .nan

def floor? (x : Float) : Option Int :=
  match exactly x with
  | .finite negative units => some (floorUnits negative units)
  | _ => none

def ceil? (x : Float) : Option Int :=
  match exactly x with
  | .finite negative units => some (-floorUnits (!negative) units)
  | _ => none

def integer? (x : Float) : Option Int :=
  match exactly x with
  | .finite negative units =>
    if units % one = 0 then some (floorUnits negative units) else none
  | _ => none

def ofInt (value : Int) : Float :=
  match value with
  | .ofNat n => Float.ofNat n
  | .negSucc n => -Float.ofNat (n + 1)

def roundHalfEven (numerator denominator : Nat) : Nat :=
  let whole := numerator / denominator
  let twice := 2 * (numerator % denominator)
  if twice < denominator then whole
  else if denominator < twice then whole + 1
  else if whole % 2 = 0 then whole else whole + 1

def nearest? (x : Float) : Option Int :=
  match exactly x with
  | .finite negative units =>
    let magnitude : Int := roundHalfEven units one
    some (if negative then -magnitude else magnitude)
  | _ => none

end SpokenArithmetic.Number
