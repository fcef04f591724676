import SpokenArithmetic.Text.Pattern

set_option autoImplicit false

namespace SpokenArithmetic.Phrase

open Text

def isArithmetic (c : Char) : Bool :=
  ['+', '-', '*', '/', '^', '%'].contains c

def isTight (c : Char) : Bool :=
  isArithmetic c || ['(', ')', '=', '.'].contains c

def spaces : Pattern Unit := fun _ text =>
  (gap? text).map fun rest => ((), rest)

def spacedSymbol : Pattern Char := fun _ text =>
  match skipSpace text with
  | symbol :: rest => if isTight symbol then some (symbol, skipSpace rest) else none
  | [] => none

def repeatedOperator : Pattern Char := fun _ text =>
  match text with
  | first :: second :: rest =>
    if isArithmetic first && first == second then some (first, rest.dropWhile (· == first)) else none
  | _ => none

def dropTrailingEquals (text : List Char) : List Char :=
  (text.reverse.dropWhile (· == '=')).reverse

/-- A text with single spaces, none next to a symbol, no repeated operator and no `=` at its end. -/
def clean (text : List Char) : List Char :=
  let single := spaces.replace (fun _ => [' ']) text
  let tight := strip (spacedSymbol.replace (fun symbol => [symbol]) single)
  let once := repeatedOperator.replace (fun operator => [operator]) tight
  strip (dropTrailingEquals once)

end SpokenArithmetic.Phrase
