import SpokenArithmetic.Number.Digits
import SpokenArithmetic.Number.Exact

set_option autoImplicit false

namespace SpokenArithmetic.Number

open Text

def ofDecimal (mantissa : Nat) (exponent : Int) : Float :=
  if mantissa = 0 then 0.0
  else
    let magnitude := ((Nat.toDigits 10 mantissa).length : Int) + exponent
    if 400 < magnitude then infinity
    else if magnitude < -400 then 0.0
    else Float.ofScientific mantissa (exponent < 0) exponent.natAbs

def separatedDigits? : List Char -> Option (List Char)
  | [] => none
  | [c] => if isDigit c then some [c] else none
  | c :: '_' :: rest => if isDigit c then (separatedDigits? rest).map (c :: ·) else none
  | c :: rest => if isDigit c then (separatedDigits? rest).map (c :: ·) else none

def optionalDigits? (text : List Char) : Option (List Char) :=
  if text.isEmpty then some [] else separatedDigits? text

def splitSign : List Char -> Bool × List Char
  | '-' :: rest => (true, rest)
  | '+' :: rest => (false, rest)
  | text => (false, text)

def splitAt? (mark : Char -> Bool) (text : List Char) : List Char × Option (List Char) :=
  match text.dropWhile (!mark ·) with
  | [] => (text, none)
  | _ :: rest => (text.takeWhile (!mark ·), some rest)

def exponent? (text : List Char) : Option Int := do
  let (negative, rest) := splitSign text
  let digits <- separatedDigits? rest
  let value : Int := ofDigits digits
  return if negative then -value else value

def unsignedDecimal? (text : List Char) : Option Float := do
  let (mantissa, power) := splitAt? (fun c => c == 'e' || c == 'E') text
  let (whole, fraction) := splitAt? (· == '.') mantissa
  let whole <- optionalDigits? whole
  let fraction <- optionalDigits? (fraction.getD [])
  let exponent <- power.elim (some 0) exponent?
  let digits := whole ++ fraction
  if digits.isEmpty then none
  else some (ofDecimal (ofDigits digits) (exponent - fraction.length))

def lowerAscii (text : List Char) : List Char :=
  text.map Char.toLower

def unsignedFloat? (text : List Char) : Option Float :=
  if lowerAscii text == "inf".toList || lowerAscii text == "infinity".toList then some infinity
  else if lowerAscii text == "nan".toList then some notANumber
  else unsignedDecimal? text

def readFloat? (text : List Char) : Option Float :=
  let (negative, rest) := splitSign (strip text)
  (unsignedFloat? rest).map fun value => if negative then -value else value

inductive IntegerFault where
  | malformed
  | overlong (overlong : Overlong)

def readInteger (text : List Char) : Except IntegerFault Int :=
  let (negative, rest) := splitSign (strip text)
  match separatedDigits? rest with
  | none => .error .malformed
  | some digits =>
    match checkReading digits with
    | some overlong => .error (.overlong overlong)
    | none => .ok (if negative then -(ofDigits digits : Int) else ofDigits digits)

end SpokenArithmetic.Number
