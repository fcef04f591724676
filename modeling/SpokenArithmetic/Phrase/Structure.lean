import SpokenArithmetic.Phrase.Number

set_option autoImplicit false

namespace SpokenArithmetic.Phrase

open Text

def raisedTo (exponent : Char) : Pattern (List Char) :=
  Pattern.unlessBehind isDigitOrPoint fun _ text => do
    let (base, rest) <- numeral? text
    let rest <- after? ['^', exponent] (skipSpace rest)
    if rest.head?.any isDigit then none else some (base, rest)

def parenthesizePower (base exponent : List Char) : List Char :=
  '(' :: base ++ '^' :: exponent ++ [')']

def isPointOrOpen (c : Char) : Bool :=
  isDigitOrPoint c || c == '('

def barePower : Pattern (List Char × List Char) :=
  Pattern.unlessBehind isPointOrOpen fun _ text => do
    let (base, rest) <- numeral? text
    let rest <- after? ['^'] (skipSpace rest)
    let (exponent, rest) <- numeral? (skipSpace rest)
    if rest.head?.any isDigitOrPoint then none else some ((base, exponent), rest)

def parenthesizePowers (text : List Char) : List Char :=
  let squares := (raisedTo '2').replace (parenthesizePower · ['2']) text
  let cubes := (raisedTo '3').replace (parenthesizePower · ['3']) squares
  barePower.replace (fun power => parenthesizePower power.1 power.2) cubes

def functionName (function : Function) : Pattern Unit :=
  Pattern.unlessBehind isWord (literally function.name.toList)

def parenthesizedCall (function : Function) : Pattern (List Char) := fun before text => do
  let (_, rest) <- functionName function before text
  let rest <- after? ['('] (skipSpace rest)
  let (argument, rest) <- signedNumeral? (skipSpace rest)
  let rest <- after? [')'] (skipSpace rest)
  some (argument, rest)

def bareCall (function : Function) : Pattern (List Char) := fun before text => do
  let (_, rest) <- functionName function before text
  let rest <- gap? rest
  signedNumeral? rest

def writtenCall (function : Function) (argument : List Char) : List Char :=
  function.name.toList ++ '(' :: argument ++ [')']

def writeCalls (text : List Char) (function : Function) : List Char :=
  (bareCall function).replace (writtenCall function)
    ((parenthesizedCall function).replace (writtenCall function) text)

def isDigitOrClose (c : Char) : Bool :=
  isDigit c || c == ')'

def wholeFunctionName? (text : List Char) : Option (Function × List Char) :=
  Function.all.findSome? fun function => do
    let rest <- after? function.name.toList text
    if rest.head?.any isWord then none else some (function, rest)

def factorBeforeFunction : Pattern (Char × Function) := fun _ text =>
  match text with
  | [] => none
  | factor :: rest => do
    let (function, rest) <- wholeFunctionName? (skipSpace rest)
    if isDigitOrClose factor then some ((factor, function), rest) else none

def factorBeforeOpen : Pattern Char := fun _ text =>
  match text with
  | [] => none
  | factor :: rest => do
    let rest <- after? ['('] (skipSpace rest)
    if isDigitOrClose factor then some (factor, rest) else none

def closeBeforeDigit : Pattern Char := fun _ text =>
  match text with
  | ')' :: rest =>
    match skipSpace rest with
    | digit :: rest => if isDigit digit then some (digit, rest) else none
    | [] => none
  | _ => none

def writeProducts (text : List Char) : List Char :=
  let functions := factorBeforeFunction.replace
    (fun found => found.1 :: '*' :: found.2.name.toList) text
  let openings := factorBeforeOpen.replace (fun factor => [factor, '*', '(']) functions
  closeBeforeDigit.replace (fun digit => [')', '*', digit]) openings

/-- Powers, calls and products made explicit; the digits are compounded after that. -/
def explicit (text : List Char) : List Char :=
  writeProducts (Function.all.foldl writeCalls (parenthesizePowers text))

def structureSpecialCases (text : List Char) : List Char :=
  compound (explicit text)

end SpokenArithmetic.Phrase
