import SpokenArithmetic.Number.Digits

set_option autoImplicit false

namespace SpokenArithmetic

structure Moment where
  year : Nat
  month : Nat
  day : Nat
  hour : Nat := 0
  minute : Nat := 0
  second : Nat := 0
  microsecond : Nat := 0
  deriving DecidableEq, Repr

namespace Moment

def key (moment : Moment) : List Nat :=
  [moment.year, moment.month, moment.day, moment.hour, moment.minute, moment.second,
    moment.microsecond]

def padded (width value : Nat) : String :=
  let digits := Nat.toDigits 10 value
  String.ofList (List.replicate (width - digits.length) '0' ++ digits)

def written (moment : Moment) : String :=
  let two := padded 2
  padded 4 moment.year ++ "-" ++ two moment.month ++ "-" ++ two moment.day ++ "T"
    ++ two moment.hour ++ ":" ++ two moment.minute ++ ":" ++ two moment.second
    ++ if moment.microsecond = 0 then "" else "." ++ padded 6 moment.microsecond

def number? (width : Nat) (text : List Char) : Option (Nat × List Char) :=
  let digits := text.take width
  if digits.length = width && digits.all Char.isDigit then
    some (Number.ofDigits digits, text.drop width)
  else none

def numberAfter? (mark : Char) (width : Nat) : List Char -> Option (Nat × List Char)
  | [] => some (0, [])
  | c :: rest => if c = mark then number? width rest else some (0, c :: rest)

def fraction : List Char -> Nat
  | '.' :: rest =>
    let digits := (rest.takeWhile Char.isDigit).take 6
    Number.ofDigits (digits ++ List.replicate (6 - digits.length) '0')
  | _ => 0

def ofText? (text : String) : Option Moment := do
  let (year, rest) <- number? 4 text.toList
  let (month, rest) <- numberAfter? '-' 2 rest
  let (day, rest) <- numberAfter? '-' 2 rest
  match rest with
  | [] => return { year, month, day }
  | _ :: time =>
    let (hour, rest) <- number? 2 time
    let (minute, rest) <- numberAfter? ':' 2 rest
    let (second, rest) <- numberAfter? ':' 2 rest
    return { year, month, day, hour, minute, second, microsecond := fraction rest }

end Moment

end SpokenArithmetic
