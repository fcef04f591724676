import SpokenArithmetic.Answer.Calculate
import SpokenArithmetic.SelfCheck.Basic

set_option autoImplicit false

namespace SpokenArithmetic.SelfCheck

open Arithmetic

def arithmetic : Check := do
  let operate := Arithmetic.operate elementary
  ensure (operate .divide 5.0 0.0 == Number.infinity)
  ensure (Number.isNan (operate .divide 0.0 0.0))
  ensure (modulo (-7.0) 3.0 == -1.0)
  hold "IEEE division and modulo"
  ensure (power elementary 10.0 400.0 == Number.infinity)
  ensure (Number.isNan (power elementary (-8.0) (1.0 / 3.0)))
  hold "IEEE power"
  ensure (factorial 0.0 == 1.0)
  ensure (factorial 5.0 == 120.0)
  for bad in [-1.0, 2.5, 171.0] do
    require (refuseFactorial? bad).isSome
      ("factorial( " ++ Number.written bad ++ " ) should have raised")
  hold "factorial bounds"
  ensure (cubeRoot elementary (-27.0) == -3.0)
  ensure (roundHalfUp (-2.5) == -2.0)
  ensure ((roundAnswer? (0.1 + 0.2)).any (· == 0.3))
  hold "cube root and rounding"

def placeOf (phrase : String) (table : List Lexicon.Entry) : Nat :=
  table.findIdx fun entry => entry.1 == phrase

def lexicon : Check := do
  let before (first second : String) (table : List Lexicon.Entry) : Bool :=
    placeOf first table < placeOf second table
  ensure (before "to the power of" "power" Lexicon.operatorsLongestFirst)
  ensure (before "square root of" "square" Lexicon.operatorsLongestFirst)
  hold "Operators ordered longest first"
  ensure (before "seventeen" "seven" Lexicon.numbersLongestFirst)
  hold "Number words ordered longest first"
  ensure ((Lexicon.cleanupPhrases.map (·.1)).take 2 == ["what is", "what's"])
  hold "Cleanup phrases keep declaration order"
  ensure (Lexicon.isFunctionName "fact")
  ensure !(Lexicon.isFunctionName "factorial")
  hold "Function name lookup"
  hold "Tables are read-only"

def outcome (expression : String) : Trial String (Except Category Float) := do
  let outcome <- liftM (Evaluation.evaluate expression false)
  return outcome.mapError Failure.category

def evaluatesTo (expression : String) (expected : Float) : Check := do
  match <- outcome expression with
  | .ok value => ensure (value == expected)
  | .error category => throw category.name

def failsWith (expression : String) (expected : Category) : Check := do
  match <- outcome expression with
  | .ok _ => throw ("[" ++ expression ++ "] should have raised " ++ expected.name)
  | .error category => require (category = expected) category.name

def displays (value : Float) (expected : String) : Check :=
  ensure (Number.display value == expected)

def evaluator : Check := do
  evaluatesTo "(2^2)" 4.0
  evaluatesTo "sqrt(16)" 4.0
  evaluatesTo "2+3*4" 14.0
  evaluatesTo "2^3^2" 512.0
  evaluatesTo "-2^2" (-4.0)
  hold "Precedence and associativity"
  evaluatesTo "0.1+0.2" 0.3
  hold "Result rounding"
  failsWith "" .empty
  failsWith "5/0" .invalid
  failsWith "sqrt(-1)" .invalid
  failsWith "2+" .malformed
  failsWith "(2+3" .malformed
  failsWith "foo(2)" .malformed
  hold "Error classification"
  displays 6.0 "6"
  displays 1234567.0 "1234567"
  displays 1234567.5 "1.2346e+6"
  displays 0.5 "0.5"
  hold "Result formatting"

def phraseCases : List (String × String) :=
  [("two squared", "(2^2)"), ("square root of sixteen", "sqrt(16)"), ("4 sqrt 2", "4*sqrt(2)"),
    ("two to the power of three", "(2^3)"), ("twenty three plus four", "23+4"),
    ("What is five plus three equals", "5+3"), ("five times negative three", "5*-3")]

def phrases : Check := do
  for (phrase, expected) in phraseCases do
    match Phrase.normalize phrase true with
    | .error overlong => throw overlong.message
    | .ok actual =>
      require (actual == expected)
        ("[" ++ phrase ++ "] → [" ++ actual ++ "], expected [" ++ expected ++ "]")
      hold (Phrase.understood phrase actual)
  hold "None normalizes to empty string"

def records : Check := do
  let answered : Draft :=
    { transcript := .text "two squared", expression := .text "(2^2)", result := .text "4"
      value := .real 4.0 }
  let record <- succeed (fun _ => "") (Trial.of answered.check)
  ensure record.succeeded
  ensure (record.line == "(2^2) = 4")
  hold "Successful record"
  let failed : Draft :=
    { transcript := .text "banana", expression := .text "banana", status := .text "error"
      message := .text "Could not calculate." }
  let record <- succeed (fun _ => "") (Trial.of failed.check)
  ensure !record.succeeded
  ensure (record.line == "Could not calculate.")
  hold "Failed record"
  let doubtful : Draft := { status := .text "maybe" }
  require doubtful.check.toOption.isNone "invalid status should be rejected"
  hold "Status validation"

def recordOf (phrase : String) : Trial String Record := do
  match Calculation.calculate phrase true false with
  | .error overlong => throw overlong.message
  | .ok work => liftM work

def pipeline : Check := do
  let record <- recordOf "two squared"
  ensure (record.succeeded && record.result == "4")
  ensure ((record.sentence Template.standard).toOption == some "The answer is 4")
  hold (record.transcript ++ " → " ++ record.line)
  let record <- recordOf "five divided by zero"
  ensure !record.succeeded
  ensure (record.message == Message.calculationFailed)
  ensure (record.errorCategory == some Category.invalid.name)
  hold (record.transcript ++ " → " ++ record.message ++ " (" ++ record.errorCategory.getD "" ++ ")")

end SpokenArithmetic.SelfCheck
