import SpokenArithmetic.Lexicon
import SpokenArithmetic.Text.Pattern

set_option autoImplicit false

namespace SpokenArithmetic.Phrase

open Text

def replacePhrase (pattern : List Char -> Pattern Unit) (text : List Char) (entry : Lexicon.Entry) :
    List Char :=
  (pattern entry.1.toList).replace (fun _ => entry.2.toList) text

/-- Strips filler words. With `wholeWords` a phrase inside a longer word is left alone. -/
def cleanup (wholeWords : Bool) (text : List Char) : List Char :=
  Lexicon.cleanupPhrases.foldl (replacePhrase (if wholeWords then asWords else literally)) text

def padded (entry : Lexicon.Entry) : Lexicon.Entry :=
  (entry.1, " " ++ entry.2 ++ " ")

def replaceOperators (text : List Char) : List Char :=
  (Lexicon.operatorsLongestFirst.map padded).foldl (replacePhrase asWords) text

def replaceNumberWords (text : List Char) : List Char :=
  Lexicon.numbersLongestFirst.foldl (replacePhrase asWords) text

end SpokenArithmetic.Phrase
