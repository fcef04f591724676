import SpokenArithmetic.Expression.Operation
import SpokenArithmetic.Text.Numeral

set_option autoImplicit false

namespace SpokenArithmetic

namespace CallForm

open Text

def touchesPower (c : Char) : Bool :=
  isWord c || c == '.' || c == '^'

/-- A power of two numerals that no letter, point or further power touches. -/
def literalPower : Pattern (List Char × List Char) :=
  Pattern.unlessBehind touchesPower fun _ text => do
    let (base, rest) <- numeral? text
    let rest <- after? ['^'] rest
    let (exponent, rest) <- numeral? rest
    if rest.head?.any touchesPower then none else some ((base, exponent), rest)

def writePower (power : List Char × List Char) : List Char :=
  Callable.power.name.toList ++ '(' :: power.1 ++ ',' :: power.2 ++ [')']

def writePowers (text : List Char) : List Char :=
  literalPower.replace writePower text

def functionCall : Pattern Function :=
  Pattern.unlessBehind isWord fun _ text =>
    Function.all.findSome? fun function => do
      let rest <- after? function.name.toList text
      let rest <- after? ['('] (skipSpace rest)
      some (function, rest)

def writeFunctions (text : List Char) : List Char :=
  functionCall.replace (fun function => function.callName.toList ++ ['(']) text

def isAllowed (c : Char) : Bool :=
  c.isAlphanum || isSpace c || "_.,()+-*/%^<>=".toList.contains c

def sanitize (text : List Char) : List Char :=
  text.filter isAllowed

end CallForm

/-- The text from which an expression is read. -/
def callForm (text : List Char) : List Char :=
  CallForm.sanitize (CallForm.writeFunctions (CallForm.writePowers text))

end SpokenArithmetic
