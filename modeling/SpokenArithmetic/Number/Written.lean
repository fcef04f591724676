import SpokenArithmetic.Number.Shortest

set_option autoImplicit false

namespace SpokenArithmetic.Number

def zeros (count : Nat) : List Char :=
  List.replicate count '0'

def sign (negative : Bool) : List Char :=
  if negative then ['-'] else []

def paddedDigits (width value : Nat) : List Char :=
  let digits := Nat.toDigits 10 value
  zeros (width - digits.length) ++ digits

/-- When a double is written with a power of ten, and how. -/
structure Layout where
  lowest : Int
  highest : Int
  exponentWidth : Nat
  fraction : List Char

def plain : Layout :=
  { lowest := -4, highest := 16, exponentWidth := 2, fraction := ['.', '0'] }

def writeExponent (width : Nat) (exponent : Int) : List Char :=
  (if exponent < 0 then '-' else '+') :: paddedDigits width exponent.natAbs

def Layout.write (layout : Layout) (decimal : Decimal) : List Char :=
  let exponent := decimal.point - 1
  if layout.lowest <= exponent && exponent < layout.highest then
    if decimal.point <= 0 then
      '0' :: '.' :: zeros (-decimal.point).toNat ++ decimal.digits
    else
      let whole := decimal.point.toNat
      if decimal.digits.length <= whole then
        decimal.digits ++ zeros (whole - decimal.digits.length) ++ layout.fraction
      else decimal.digits.take whole ++ '.' :: decimal.digits.drop whole
  else
    let mantissa :=
      match decimal.digits with
      | [] => ['0']
      | [digit] => [digit]
      | digit :: rest => digit :: '.' :: rest
    mantissa ++ 'e' :: writeExponent layout.exponentWidth exponent

def written (x : Float) : String :=
  match exactly x with
  | .nan => "nan"
  | .infinite negative => String.ofList (sign negative ++ ['i', 'n', 'f'])
  | .finite negative 0 => String.ofList (sign negative ++ '0' :: plain.fraction)
  | .finite negative units => String.ofList (sign negative ++ plain.write (shortest units))

def fixedPlaces (places units : Nat) : List Char × List Char :=
  let scaled := roundHalfEven (units * tenTo places) one
  (Nat.toDigits 10 (scaled / tenTo places), paddedDigits places (scaled % tenTo places))

def scientific (places units : Nat) : List Char × Int :=
  let leading := leadingPower units
  let step := leading - places
  let count :=
    match step with
    | .ofNat up => roundHalfEven units (one * tenTo up)
    | .negSucc down => roundHalfEven (units * tenTo (down + 1)) one
  let digits := Nat.toDigits 10 count
  (digits.take (places + 1), leading + ((digits.length : Int) - (places + 1)))

end SpokenArithmetic.Number
