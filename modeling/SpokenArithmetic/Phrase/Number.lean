import SpokenArithmetic.Number.Digits
import SpokenArithmetic.Phrase.Words
import SpokenArithmetic.Text.Numeral

set_option autoImplicit false

namespace SpokenArithmetic.Phrase

open Text Number

def scaled (scale : List Char) : Pattern (List Char) :=
  Pattern.unlessBehind isDigitOrPoint fun _ text => do
    let (group, rest) <- digits? text
    let rest <- gap? rest
    let rest <- after? scale rest
    if rest.head?.any isDigit then none else some (group, rest)

structure Neighbours where
  high : List Char
  gap : List Char
  low : List Char

/-- A group of at least two digits, white space and another group; no point touches them. -/
def neighbours : Pattern Neighbours :=
  Pattern.unlessBehind isDigitOrPoint fun _ text => do
    let (high, rest) <- digits? text
    let next <- gap? rest
    let (low, behind) <- digits? next
    if high.length < 2 || behind.head?.any isDigitOrPoint then none
    else some (⟨high, rest.takeWhile isSpace, low⟩, behind)

def trailingZeros (group : List Char) : Nat :=
  (group.reverse.takeWhile (· == '0')).length

namespace Neighbours

def fills (found : Neighbours) : Bool :=
  found.low.length <= trailingZeros found.high

def sum (found : Neighbours) : Nat :=
  ofDigits found.high + ofDigits found.low

def merged (found : Neighbours) : List Char :=
  if found.fills then toDigits found.sum
  else if found.low.length <= 2 then found.high ++ found.low
  else found.high ++ found.gap ++ found.low

def overlong? (found : Neighbours) : Option Overlong :=
  if found.fills then
    checkReading found.high <|> checkReading found.low <|> checkWriting found.sum
  else none

end Neighbours

def scale (zeros : Nat) : List Char :=
  '1' :: List.replicate zeros '0'

def multiplyScale (zeros : Nat) (text : List Char) : List Char :=
  (scaled (scale zeros)).replace (fun group => toDigits (ofDigits group * tenTo zeros)) text

def scaleOverlong? (zeros : Nat) (text : List Char) : Option Overlong :=
  (scaled (scale zeros)).complaint?
    (fun group => checkReading group <|> checkWriting (ofDigits group * tenTo zeros)) text

def mergeOnce (text : List Char) : List Char :=
  neighbours.replace Neighbours.merged text

/-- Merges until nothing changes. A merge takes a gap away, so `text.length` rounds are enough. -/
def mergeAll : (rounds : Nat) -> List Char -> List Char
  | 0, text => text
  | rounds + 1, text =>
    let next := mergeOnce text
    if next = text then text else mergeAll rounds next

def mergeOverlong? : (rounds : Nat) -> List Char -> Option Overlong
  | 0, _ => none
  | rounds + 1, text =>
    let next := mergeOnce text
    neighbours.complaint? Neighbours.overlong? text <|>
      if next = text then none else mergeOverlong? rounds next

def compound (text : List Char) : List Char :=
  let scaledUp := multiplyScale 3 (multiplyScale 2 text)
  mergeAll scaledUp.length scaledUp

def compoundOverlong? (text : List Char) : Option Overlong :=
  let hundreds := multiplyScale 2 text
  let thousands := multiplyScale 3 hundreds
  scaleOverlong? 2 text <|> scaleOverlong? 3 hundreds <|>
    mergeOverlong? thousands.length thousands

def spacedPoint : Pattern (Char × Char) := fun _ text =>
  match text with
  | [] => none
  | first :: rest =>
    match skipSpace rest with
    | '.' :: behind =>
      match skipSpace behind with
      | last :: rest => if isDigit first && isDigit last then some ((first, last), rest) else none
      | [] => none
    | _ => none

def joinPoints (text : List Char) : List Char :=
  spacedPoint.replace (fun ends => [ends.1, '.', ends.2]) text

/-- Number words become digits, compounded before a spoken point is joined. -/
def replaceNumbers (text : List Char) : List Char :=
  joinPoints (compound (replaceNumberWords text))

end SpokenArithmetic.Phrase
