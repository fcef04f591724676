import SpokenArithmetic.Journal
import SpokenArithmetic.Text.Pattern

set_option autoImplicit false

namespace SpokenArithmetic.Speech

open Text

def noSpeech : String := "no-speech"

def notAllowed : String := "not-allowed"

def describe (code : String) : String :=
  if code = noSpeech then "No speech detected. Please try again."
  else if code = notAllowed then "Microphone access denied. Please allow microphone access."
  else "Error: " ++ code

inductive Utterance where
  | phrase (text : String)
  | silence
  deriving DecidableEq, Repr

def Utterance.ofLine (line : List Char) : Utterance :=
  let phrase := strip line
  if phrase.isEmpty then .silence else .phrase (String.ofList phrase)

def lines : List Char -> List (List Char)
  | [] => []
  | '\n' :: rest => [] :: lines rest
  | c :: rest =>
    match lines rest with
    | [] => [[c]]
    | line :: others => (c :: line) :: others

def utterances (text : String) : List Utterance :=
  (lines text.toList).map Utterance.ofLine

def standardPrompt : String := "🎤 "

def promptEvents (prompt : String) : List Event :=
  if prompt.isEmpty then [] else [.printed prompt]

end SpokenArithmetic.Speech
