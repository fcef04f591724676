import SpokenArithmetic.Phrase.Structure
import SpokenArithmetic.Phrase.Tidy
import SpokenArithmetic.Text.Case

set_option autoImplicit false

namespace SpokenArithmetic.Phrase

open Text Number

def symbols (wholeWords : Bool) (phrase : List Char) : List Char :=
  replaceOperators (cleanup wholeWords (strip (lower phrase)))

/-- The expression that a phrase stands for, however long its numbers are. -/
def expression (wholeWords : Bool) (phrase : List Char) : List Char :=
  clean (structureSpecialCases (replaceNumbers (symbols wholeWords phrase)))

/-- The conversion at which normalizing a phrase stops, if one does. -/
def overlong? (wholeWords : Bool) (phrase : List Char) : Option Overlong :=
  let words := symbols wholeWords phrase
  compoundOverlong? (replaceNumberWords words) <|> compoundOverlong? (explicit (replaceNumbers words))

def normalize (phrase : String) (wholeWords : Bool) : Except Overlong String :=
  match overlong? wholeWords phrase.toList with
  | some overlong => .error overlong
  | none => .ok (String.ofList (expression wholeWords phrase.toList))

def understood (phrase expression : String) : String :=
  "\"" ++ phrase ++ "\" → " ++ expression

def interpretation (phrase : String) (wholeWords : Bool) : Except Overlong String :=
  understood phrase <$> normalize phrase wholeWords

end SpokenArithmetic.Phrase
