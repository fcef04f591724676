import SpokenArithmetic.Assistant.Basic
import SpokenArithmetic.SelfCheck.Calculation
import SpokenArithmetic.Speech.Listening

set_option autoImplicit false

namespace SpokenArithmetic.SelfCheck

open Settings (Shared)

structure Surroundings where
  environment : Environment
  reply : Speech.Reply
  now : Moment

def recordStep (step : Told (Assistant.Outcome Record)) : Trial String (Record × Assistant) := do
  match <- liftM step with
  | (.ok record, assistant) => return (record, assistant)
  | (.error _, _) => throw ""

def assistant (now : Moment) : Check := do
  let (record, assistant) <-
    recordStep (({ transcript := .text "what is two squared" } : Assistant).answerTranscript now)
  ensure (record.succeeded && record.result == "4")
  ensure (assistant.sentence == some "The answer is 4")
  hold (record.transcript ++ " → " ++ record.line)
  let (record, assistant) <- recordStep (assistant.correct now (.text "(2^2)+1"))
  ensure (record.result == "5" && record.transcript == "what is two squared")
  hold "Manual-edit path"
  let (record, assistant) <- recordStep (assistant.correct now (.text "   "))
  ensure (record.message == Message.emptyEdit)
  let (record, _) <- recordStep (assistant.correct now (.text "2+"))
  ensure (record.message == Message.invalidEdit)
  hold "Manual-edit failures"
  let (record, _) <-
    recordStep (({ transcript := .text "banana split" } : Assistant).answerTranscript now)
  ensure (record.message == Message.calculationFailed)
  hold "Unrecognized phrase fails with the generic message"

def savedCases : List (String × String × String) :=
  [("two squared", "(2^2)", "4"), ("square root of sixteen", "sqrt(16)", "4"),
    ("five plus three", "5+3", "8")]

def saveAll (now : Moment) : List (String × String × String) -> History -> Told History
  | [], history => pure history
  | (transcript, expression, result) :: rest, history => do
    let (_, history) <- history.save now (.text transcript) (.text expression) (.text result)
    saveAll now rest history

def history (surroundings : Surroundings) : Check := do
  let (opened, _) <- liftM (History.openWith surroundings.environment [] (.text History.memoryAddress)
    (.whole 2) false false Shared.none)
  let table <- succeed History.OpenFault.message (Trial.of opened)
  let table <- liftM (saveAll surroundings.now savedCases table)
  ensure (table.table.count == 3)
  hold "save"
  let recent <- succeed History.LimitFault.message (Trial.of (table.recent .null))
  ensure (recent.map Entry.expression == ["5+3", "sqrt(16)"])
  hold "get_recent newest first, default limit"
  let (count, table) <- liftM table.clear
  ensure (count == 3)
  ensure (table.table.count == 0)
  hold "clear"

def settingsMessage : Settings.Fault -> String
  | .block (.missingBlock name) => Text.inQuotes (Settings.BlockFault.missingBlock name).message
  | fault => fault.message

def obtained (step : Told (Except Settings.Fault Settings.Manager × Shared)) :
    Trial String (Settings.Manager × Shared) := do
  match <- liftM step with
  | (.ok manager, shared) => return (manager, shared)
  | (.error fault, _) => throw (settingsMessage fault)

def settingOf (manager : Settings.Manager) (key : String) (default : Option Settings.Value)
    (kind : String) : Trial String Settings.Value :=
  succeed settingsMessage (manager.get key default false kind)

def isWhole (expected : Int) : Settings.Value -> Bool
  | .whole value => value == expected
  | _ => false

def isText (expected : String) : Settings.Value -> Bool
  | .text value => value == expected
  | _ => false

def isFalse : Settings.Value -> Bool
  | .flag value => !value
  | _ => false

def settings (environment : Environment) : Check := do
  let rejected (parameters : Settings.Parameters) (message : String) : Check := do
    let (made, _) <- liftM (Shared.none.obtain environment parameters)
    require made.toOption.isNone message
  rejected {} "Zero-argument constructor should have failed"
  hold "Zero-argument constructor rejected"
  rejected { holder := some Settings.pairsVariable, path := some "/some/path"
             explanationsPath := some "/some/path" } "Conflicting parameters should have failed"
  hold "Conflicting parameters rejected"
  let (_, shared) <- obtained (Shared.none.get environment none false)
  let (manager, _) <- obtained (shared.get environment none false)
  let limit <- settingOf manager "history_default_limit" (some (.whole 20)) "int"
  ensure (isWhole 20 limit)
  hold "Bundled configuration loaded"
  let manager <- succeed settingsMessage
    (Settings.Manager.orThrow (manager.load environment (some "testing") []))
  let address <- settingOf manager "history_db_url" none "string"
  ensure (isText History.memoryAddress address)
  let enabled <- settingOf manager "tts_enabled" none "boolean"
  ensure (isFalse enabled)
  hold "Block inheritance and defaults"

def speech (reply : Speech.Reply) : Check := do
  let heard := Speech.utterances "two squared\n\n"
  ensure (heard == [.phrase "two squared", .silence])
  ensure (Speech.describe Speech.noSpeech == "No speech detected. Please try again.")
  hold "ConsoleSpeechSource"
  ensure (Speech.describe "network" == "Error: network")
  hold "describe_speech_error"
  ensure (Speech.Sink.console.speak reply "The answer is 4").result
  ensure !(Speech.Sink.silent.speak reply "ignored").result
  hold "Console and null sinks"
  let server : Speech.Sink := .server (some "http://127.0.0.1:1/api/speak") (.real 0.1) false
  let taken <- liftM (server.speak reply "unreachable")
  ensure !taken
  hold "HttpSpeechSink fails quietly"

def tools (environment : Environment) : Check := do
  let found := Settings.pairs true ["config_block_id=unit+testing", "skip-me", "expr=a=b"]
  ensure (found == [("config_block_id", "unit testing"), ("expr", "a=b")])
  hold "name=value parsing"
  ensure (truncated "abcdef" 3 == "abc...")
  hold "truncate_string"
  hold ("Project root [" ++ environment.projectRoot ++ "]")
  hold ("Config path  [" ++ environment.settingsPath "spoken-calc.ini" ++ "]")

inductive Part where
  | assistant
  | arithmetic
  | pipeline
  | evaluator
  | lexicon
  | records
  | phrases
  | settings
  | speech
  | tools
  | history
  deriving DecidableEq, Repr

namespace Part

def name : Part -> String
  | assistant => "CalculatorAgent"
  | arithmetic => "calc_operations"
  | pipeline => "calculator dispatcher"
  | evaluator => "expression_evaluator"
  | lexicon => "lexicon"
  | records => "calculator models"
  | phrases => "phrase_normalizer"
  | settings => "configuration_manager"
  | speech => "voice_io"
  | tools => "util"
  | history => "calculation_history_table"

def source? : Part -> Option Source
  | assistant => some .assistant
  | pipeline => some .pipeline
  | evaluator => some .evaluator
  | speech => some .speech
  | history => some .history
  | _ => none

def check (surroundings : Surroundings) : Part -> Check
  | assistant => SelfCheck.assistant surroundings.now
  | arithmetic => SelfCheck.arithmetic
  | pipeline => SelfCheck.pipeline
  | evaluator => SelfCheck.evaluator
  | lexicon => SelfCheck.lexicon
  | records => SelfCheck.records
  | phrases => SelfCheck.phrases
  | settings => SelfCheck.settings surroundings.environment
  | speech => SelfCheck.speech surroundings.reply
  | tools => SelfCheck.tools surroundings.environment
  | history => SelfCheck.history surroundings

def notice (part : Part) : List Event :=
  match part with
  | settings | tools | history =>
    [(Banner.ofError "smoke test failure" (part.name ++ ".quick_smoke_test()") true).event]
  | _ => []

def run (surroundings : Surroundings) (part : Part) : Told Bool :=
  SelfCheck.run part.name part.notice (part.check surroundings)

end Part

end SpokenArithmetic.SelfCheck
