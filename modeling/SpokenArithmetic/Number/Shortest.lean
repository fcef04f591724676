import SpokenArithmetic.Number.Exact

set_option autoImplicit false

namespace SpokenArithmetic.Number

/-- `0.d1d2d3… · 10 ^ point`, with no zero at either end of the digits. -/
structure Decimal where
  digits : List Char
  point : Int
  deriving DecidableEq, Repr

/-- The decimals `units · 2 ^ -1074` may be written as: four times the bounds, and whether they count. -/
structure Interval where
  low : Nat
  high : Nat
  closed : Bool

def intervalOf (units : Nat) : Interval :=
  let shift := shiftOf units
  let gap := twoTo shift
  let below := if units = twoTo 52 * gap && 0 < shift then gap else 2 * gap
  { low := 4 * units - below, high := 4 * units + 2 * gap, closed := units / gap % 2 = 0 }

def Interval.holds (interval : Interval) (numerator denominator : Nat) : Bool :=
  let low := interval.low * denominator
  let high := interval.high * denominator
  if interval.closed then low <= numerator && numerator <= high
  else low < numerator && numerator < high

-- The decimals with unit `10 ^ step` around `4 · units`: the numerator of one, and the denominator.
def gridPoint (step : Int) (count : Nat) : Nat × Nat :=
  match step with
  | .ofNat up => (4 * one * count * tenTo up, 1)
  | .negSucc down => (4 * one * count, tenTo (down + 1))

def stepsIn (units : Nat) (step : Int) : Nat :=
  match step with
  | .ofNat up => units / (one * tenTo up)
  | .negSucc down => units * tenTo (down + 1) / one

def distance (units : Nat) (point : Nat × Nat) : Nat :=
  let value := 4 * units * point.2
  if value < point.1 then point.1 - value else value - point.1

def onGrid? (units : Nat) (step : Int) : Option Nat :=
  let interval := intervalOf units
  let below := stepsIn units step
  let low := gridPoint step below
  let high := gridPoint step (below + 1)
  let nearer :=
    if distance units low < distance units high then below
    else if distance units high < distance units low then below + 1
    else if below % 2 = 0 then below else below + 1
  match interval.holds low.1 low.2, interval.holds high.1 high.2 with
  | true, true => some nearer
  | true, false => some below
  | false, true => some (below + 1)
  | false, false => none

def leadingPower (units : Nat) : Int :=
  ((Nat.toDigits 10 (units * tenTo 330 / one)).length : Int) - 331

def search (units : Nat) (leading : Int) : (further count : Nat) -> Nat × Int
  | 0, count =>
    let step := leading - count
    (stepsIn units step, step)
  | further + 1, count =>
    let step := leading - count
    match onGrid? units step with
    | some steps => (steps, step)
    | none => search units leading further (count + 1)

def dropTrailingZeros (digits : List Char) : List Char :=
  (digits.reverse.dropWhile (· == '0')).reverse

/-- The shortest decimal that reads back as a positive number of units. -/
def shortest (units : Nat) : Decimal :=
  let (steps, step) := search units (leadingPower units) 17 0
  let digits := Nat.toDigits 10 steps
  { digits := dropTrailingZeros digits, point := digits.length + step }

end SpokenArithmetic.Number
