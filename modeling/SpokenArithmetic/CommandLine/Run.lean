import SpokenArithmetic.CommandLine.Interactive
import SpokenArithmetic.CommandLine.Usage

set_option autoImplicit false

namespace SpokenArithmetic.CommandLine

open Settings (Shared)
open Speech (Sink)

/-- What is kept from one run to the next. -/
structure Kept where
  shared : Shared
  shelf : Shelf

def Kept.nothing : Kept :=
  { shared := Shared.none, shelf := [] }

def openSettingsHistory (surroundings : Surroundings) (manager : Settings.Manager) (trace : Bool)
    (kept : Kept) : Trial History.OpenFault History := do
  let address <- (manager.get "history_db_url" none false "string").adapt .settings
  let limit <- (History.limitSetting manager).adapt .settings
  ExceptT.mk ((fun opened => opened.1) <$>
    History.openWith surroundings.environment kept.shelf address limit trace false kept.shared)

def openHistory (surroundings : Surroundings) (manager : Settings.Manager) (trace : Bool)
    (kept : Kept) : Trial Settings.Fault (Option History) := do
  if <- Preferences.flag manager "history_enabled" true then
    match <- liftM (openSettingsHistory surroundings manager trace kept).run with
    | .ok history => return some history
    | .error fault =>
      Trial.tell [.logged .warning .commandLine
        ("Calculation history unavailable: " ++ fault.message)]
      return none
  else return none

def entryLine (entry : Entry) : Event :=
  .line ("\"" ++ truncated entry.transcript phraseWidth ++ "\"  " ++ entry.expression ++ " = "
    ++ entry.result)

-- The entries of a history in lines, newest first. A negative number stands for the limit of the
-- history.
def listing (history : History) (count : Int) : Except History.LimitFault (List Event) := do
  let entries <- history.recent (if count < 0 then .null else .whole count)
  if entries.isEmpty then return [.line "No calculations yet. Start by speaking a calculation!"]
  else return entries.map entryLine

abbrev Outcome := Except Fault Nat × Option History

def tendHistory (asked : Asked) (history : Option History) : Told Outcome := do
  match history with
  | none =>
    Told.tell [.complaint "Calculation history is disabled"]
    return (.ok 1, none)
  | some history =>
    let history <-
      if asked.clearHistory then do
        let (count, history) <- history.clear
        Told.tell [.line s!"History cleared ({count} entries)"]
        pure history
      else pure history
    match asked.history.map (listing history) with
    | none => return (.ok 0, some history)
    | some (.error fault) => return (.error (.limit fault), some history)
    | some (.ok events) =>
      Told.tell events
      return (.ok 0, some history)

def chooseSink (asked : Asked) (manager : Settings.Manager) (trace : Bool) :
    Trial Settings.Fault (Option Sink) := do
  if asked.speak then
    let sink <- Sink.ofSettings manager trace
    return some (if sink.isSupported then sink else .console)
  else return none

def calculateAsked (surroundings : Surroundings) (equipment : Equipment) (asked : Asked)
    (phrase : String) (history : Option History) : Told Outcome := do
  let transcript := if phrase.isEmpty then asked.expression.getD "" else phrase
  let now := surroundings.now
  let work : Assistant -> Told (Assistant.Outcome Record) :=
    match asked.expression with
    | some expression => fun assistant => assistant.correct now (.text expression)
    | none => fun assistant => assistant.answerTranscript now
  match <- employ surroundings equipment transcript history work with
  | (.error fault, history) => return (.error fault, history)
  | (.ok record, history) => return (.ok (if record.succeeded then 0 else 1), history)

def obey (surroundings : Surroundings) (manager : Settings.Manager) (asked : Asked) (trace : Bool)
    (phrase : String) (history : Option History) : Told Outcome := do
  if asked.clearHistory || asked.history.isSome then tendHistory asked history
  else
    match <- (chooseSink asked manager trace).run with
    | .error fault => return (.error (.settings fault), history)
    | .ok sink =>
      let equipment : Equipment := { manager, sink, trace }
      if asked.interactive then
        let (outcome, history) <- interact surroundings equipment history
        return (outcome.map fun _ => 0, history)
      else if asked.expression.isNone && phrase.isEmpty then
        Told.tell [.complained usage]
        return (.ok 1, history)
      else calculateAsked surroundings equipment asked phrase history

def interpret (manager : Settings.Manager) (phrase : String) : Trial Fault Nat := do
  if phrase.isEmpty then
    Trial.tell (refusalEvents .phraseMissing)
    return 2
  else
    let wholeWords <-
      (Preferences.flag manager "phrase_cleanup_word_boundaries" true).adapt Fault.settings
    let shown <- Trial.of ((Phrase.interpretation phrase wholeWords).mapError .overlong)
    Trial.tell [.line shown]
    return 0

def perform (surroundings : Surroundings) (asked : Asked) (manager : Settings.Manager)
    (kept : Kept) : Told (Except Fault Nat × Kept) := do
  match <- (if asked.trace then pure true else Preferences.flag manager "app_debug" false).run with
  | .error fault => return (.error (.settings fault), kept)
  | .ok trace =>
    let phrase := " ".intercalate asked.phrase
    if asked.interpret then return (<- (interpret manager phrase).run, kept)
    else
      match <- (openHistory surroundings manager trace kept).run with
      | .error fault => return (.error (.settings fault), kept)
      | .ok history =>
        let (outcome, history) <- obey surroundings manager asked trace phrase history
        let shelf := history.elim kept.shelf fun history => history.close kept.shelf
        return (outcome, { kept with shelf })

def run (surroundings : Surroundings) (arguments : List String) (kept : Kept) :
    Told (Except Fault Nat × Kept) := do
  match read arguments with
  | .error fault =>
    Told.tell (refusalEvents fault)
    return (.ok 2, kept)
  | .ok none =>
    Told.tell helpEvents
    return (.ok 0, kept)
  | .ok (some asked) =>
    match <- kept.shared.get surroundings.environment asked.block asked.trace with
    | (.error fault, shared) => return (.error (.settings fault), { kept with shared })
    | (.ok manager, shared) => perform surroundings asked manager { kept with shared }

end SpokenArithmetic.CommandLine
