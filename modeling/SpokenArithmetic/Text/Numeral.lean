import SpokenArithmetic.Text.Pattern

set_option autoImplicit false

namespace SpokenArithmetic.Text

def digits? (text : List Char) : Option (List Char × List Char) :=
  if text.head?.any isDigit then some (text.takeWhile isDigit, text.dropWhile isDigit) else none

def numeral? (text : List Char) : Option (List Char × List Char) := do
  let (whole, rest) <- digits? text
  match rest with
  | '.' :: fraction =>
    some (whole ++ '.' :: fraction.takeWhile isDigit, fraction.dropWhile isDigit)
  | _ => some (whole, rest)

def signedNumeral? (text : List Char) : Option (List Char × List Char) :=
  match text with
  | '-' :: rest => (numeral? (skipSpace rest)).map fun (numeral, rest) => ('-' :: numeral, rest)
  | _ => numeral? text

def isDigitOrPoint (c : Char) : Bool :=
  isDigit c || c == '.'

end SpokenArithmetic.Text
