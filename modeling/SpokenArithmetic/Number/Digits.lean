import SpokenArithmetic.Number.Power
import SpokenArithmetic.Text.Class

set_option autoImplicit false

namespace SpokenArithmetic.Number

open Text

def maxDigits : Nat := 4300

/-- A conversion between a number and its digits that is refused. -/
inductive Overlong where
  | reading (digits : Nat)
  | writing
  deriving DecidableEq, Repr

def Overlong.message : Overlong -> String
  | reading digits => limit ++ s!": value has {digits} digits" ++ advice
  | writing => limit ++ advice
where
  limit := s!"Exceeds the limit ({maxDigits} digits) for integer string conversion"
  advice := "; use sys.set_int_max_str_digits() to increase the limit"

def ofDigits (digits : List Char) : Nat :=
  digits.foldl (fun value c => 10 * value + (digitValue? c).getD 0) 0

def toDigits (value : Nat) : List Char :=
  Nat.toDigits 10 value

def checkReading (digits : List Char) : Option Overlong :=
  if digits.length > maxDigits then some (.reading digits.length) else none

def checkWriting (value : Nat) : Option Overlong :=
  if value < tenTo maxDigits then none else some .writing

end SpokenArithmetic.Number
