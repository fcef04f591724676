import SpokenArithmetic.Assistant.Basic
import SpokenArithmetic.Speech.Listening

set_option autoImplicit false

namespace SpokenArithmetic.CommandLine

open Speech (Reply Sink Utterance)

inductive Fault where
  | settings (fault : Settings.Fault)
  | assistant (fault : Assistant.Fault)
  | overlong (overlong : Number.Overlong)
  | limit (fault : History.LimitFault)

def Fault.message : Fault -> String
  | settings fault => fault.message
  | assistant fault => fault.message
  | overlong found => found.message
  | limit fault => fault.message

structure Surroundings where
  environment : Environment
  reply : Reply
  now : Moment
  input : String

structure Equipment where
  manager : Settings.Manager
  sink : Option Sink
  trace : Bool

def recordEvents (record : Record) : List Event :=
  if record.succeeded then [.line record.line] else [.complaint record.message]

def returned (assistant : Assistant) : Option History :=
  assistant.keeper.bind Keeper.history?

def employ (surroundings : Surroundings) (equipment : Equipment) (transcript : String)
    (history : Option History) (work : Assistant -> Told (Assistant.Outcome Record)) :
    Told (Except Fault Record × Option History) := do
  let speaker := equipment.sink.map (Sink.speaker surroundings.reply)
  match <- (Assistant.hire (.text transcript) (some equipment.manager)
    (history.map Keeper.history) speaker equipment.trace false).run with
  | .error fault => return (.error (.settings fault), history)
  | .ok assistant =>
    match <- work assistant with
    | (.error fault, assistant) => return (.error (.assistant fault), returned assistant)
    | (.ok record, assistant) =>
      Told.tell (recordEvents record)
      return (.ok record, returned assistant)

def quitWords : List String :=
  ["quit", "exit", "stop", "goodbye"]

def isQuit (phrase : String) : Bool :=
  quitWords.contains (Text.lowered phrase)

def converse (surroundings : Surroundings) (equipment : Equipment) :
    List Utterance -> Option History -> Told (Except Fault Unit × Option History)
  | [], history => do
    Told.tell (Speech.promptEvents Speech.standardPrompt)
    return (.ok (), history)
  | .silence :: rest, history => do
    Told.tell (Speech.promptEvents Speech.standardPrompt)
    Told.tell [.line (Speech.describe Speech.noSpeech)]
    converse surroundings equipment rest history
  | .phrase phrase :: rest, history => do
    Told.tell (Speech.promptEvents Speech.standardPrompt)
    if isQuit phrase then return (.ok (), history)
    else
      match <- employ surroundings equipment phrase history
        (Assistant.answerTranscript surroundings.now) with
      | (.error fault, history) => return (.error fault, history)
      | (.ok _, history) => converse surroundings equipment rest history

def interact (surroundings : Surroundings) (equipment : Equipment) (history : Option History) :
    Told (Except Fault Unit × Option History) := do
  Told.tell [.line "Speak your calculation. Type 'quit' to leave."]
  converse surroundings equipment (Speech.utterances surroundings.input) history

end SpokenArithmetic.CommandLine
