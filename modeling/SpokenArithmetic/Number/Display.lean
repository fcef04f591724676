import SpokenArithmetic.Number.Digits
import SpokenArithmetic.Number.Written

set_option autoImplicit false

namespace SpokenArithmetic.Number

def exponentialFrom : Float := 1000000.0

def exponentialBelow : Float := 0.0001

def trimFraction (fraction : List Char) : List Char :=
  match dropTrailingZeros fraction with
  | [] => ['0']
  | digits => digits

def displayFixed (units : Nat) : List Char :=
  let (whole, fraction) := fixedPlaces 6 units
  whole ++ '.' :: trimFraction fraction

def displayExponential (units : Nat) : List Char :=
  let (digits, exponent) := scientific 4 units
  digits.take 1 ++ '.' :: digits.drop 1 ++ 'e' :: writeExponent 1 exponent

def display (x : Float) : String :=
  match exactly x with
  | .nan => "NaN"
  | .infinite negative => if negative then "-Infinity" else "Infinity"
  | .finite negative units =>
    if units % one = 0 then toString (floorUnits negative units)
    else
      let magnitude :=
        if exponentialFrom <= x.abs || x.abs < exponentialBelow then displayExponential units
        else displayFixed units
      String.ofList (sign negative ++ magnitude)

def displayInteger (value : Int) : Except Overlong String :=
  match checkWriting value.natAbs with
  | some overlong => .error overlong
  | none => .ok (toString value)

end SpokenArithmetic.Number
