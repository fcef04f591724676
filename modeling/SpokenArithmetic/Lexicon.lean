import SpokenArithmetic.Expression.Operation

set_option autoImplicit false

namespace SpokenArithmetic.Lexicon

abbrev Entry := String × String

/-- Filler, linking words and spoken punctuation, in the order in which they are replaced. -/
def cleanupPhrases : List Entry := [
  ("what is", ""), ("what's", ""), ("calculate", ""), ("compute", ""), ("equals", "="),
  ("equal", "="), ("is", "="), ("point", "."), ("decimal", "."), ("negative", "-"),
  ("positive", "+")]

def operatorWords : List Entry := [
  ("plus", "+"), ("add", "+"), ("and", "+"), ("sum", "+"), ("minus", "-"), ("subtract", "-"),
  ("take away", "-"), ("less", "-"), ("times", "*"), ("multiply", "*"), ("multiplied by", "*"),
  ("x", "*"), ("divide", "/"), ("divided by", "/"), ("over", "/"), ("to the power of", "^"),
  ("power of", "^"), ("raised to", "^"), ("exponent", "^"), ("power", "^"), ("squared", "^2"),
  ("square", "^2"), ("cubed", "^3"), ("cube", "^3"), ("percent", "%"), ("modulo", "%"),
  ("mod", "%"), ("square root of", "sqrt"), ("square root", "sqrt"), ("root of", "sqrt"),
  ("root", "sqrt"), ("sqrt", "sqrt"), ("cube root of", "cbrt"), ("cube root", "cbrt"),
  ("absolute value", "abs"), ("absolute", "abs"), ("sine", "sin"), ("cosine", "cos"),
  ("tangent", "tan"), ("factorial", "fact"), ("log", "log"), ("logarithm", "log"),
  ("natural log", "ln"), ("ln", "ln"), ("floor", "floor"), ("ceiling", "ceil"), ("round", "round")]

def numberWords : List Entry := [
  ("zero", "0"), ("one", "1"), ("two", "2"), ("three", "3"), ("four", "4"), ("five", "5"),
  ("six", "6"), ("seven", "7"), ("eight", "8"), ("nine", "9"), ("ten", "10"), ("eleven", "11"),
  ("twelve", "12"), ("thirteen", "13"), ("fourteen", "14"), ("fifteen", "15"), ("sixteen", "16"),
  ("seventeen", "17"), ("eighteen", "18"), ("nineteen", "19"), ("twenty", "20"), ("thirty", "30"),
  ("forty", "40"), ("fifty", "50"), ("sixty", "60"), ("seventy", "70"), ("eighty", "80"),
  ("ninety", "90"), ("hundred", "100"), ("thousand", "1000")]

def insertByLength (entry : Entry) : List Entry -> List Entry
  | [] => [entry]
  | head :: rest =>
    if head.1.length <= entry.1.length then entry :: head :: rest
    else head :: insertByLength entry rest

-- Longer phrases first; phrases of one length keep their order.
def longestFirst (table : List Entry) : List Entry :=
  table.foldr insertByLength []

def operatorsLongestFirst : List Entry :=
  longestFirst operatorWords

def numbersLongestFirst : List Entry :=
  longestFirst numberWords

def functionNames : List String :=
  Function.all.map Function.name

def isFunctionName (token : String) : Bool :=
  functionNames.contains token

theorem insertByLength_perm (entry : Entry) (table : List Entry) :
    (insertByLength entry table).Perm (entry :: table) := by
  induction table with
  | nil => exact List.Perm.refl _
  | cons head rest ih =>
    unfold insertByLength
    split
    next => exact List.Perm.refl _
    next => exact (ih.cons head).trans (List.Perm.swap entry head rest)

theorem longestFirst_perm (table : List Entry) : (longestFirst table).Perm table := by
  induction table with
  | nil => exact List.Perm.refl _
  | cons entry rest ih => exact (insertByLength_perm entry _).trans (ih.cons entry)

end SpokenArithmetic.Lexicon
