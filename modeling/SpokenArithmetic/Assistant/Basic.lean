import SpokenArithmetic.Answer.Calculate
import SpokenArithmetic.Assistant.Keeper
import SpokenArithmetic.Assistant.Preferences
import SpokenArithmetic.Speech.Speaking

set_option autoImplicit false

namespace SpokenArithmetic

open Arithmetic (Refusal)

structure Assistant where
  transcript : Datum := .text ""
  preferences : Preferences := {}
  keeper : Option Keeper := none
  speaker : Option Speech.Speaker := none
  expression : Datum := .none
  value : Datum := .none
  failure : Option (Failure Refusal) := none
  answer : Option String := none
  sentence : Option String := none
  record : Option Record := none

namespace Assistant

inductive Fault where
  | failed (failure : Failure Refusal)
  | overlong (overlong : Number.Overlong)
  | noNumber
  | record (complaints : List FieldComplaint)
  | template (fault : Template.Fault)
  | noText (kind : String)

def Fault.message : Fault -> String
  | failed failure => failure.detail
  | overlong found => found.message
  | noNumber => "There is no number to format"
  | record complaints =>
    "\n".intercalate (complaints.map fun (field, complaint) => field ++ ": " ++ complaint.message)
  | template fault => fault.message
  | noText kind => "'" ++ kind ++ "' object has no attribute 'strip'"

abbrev Outcome (A : Type) := Except Fault A × Assistant

def traceLine (step text : String) : Event :=
  .line ("CalculatorAgent" ++ step ++ ": " ++ text)

def Preferences.traced (preferences : Preferences) (event : Event) : List Event :=
  if preferences.trace then [event] else []

def startEvents (assistant : Assistant) : List Event :=
  let wholeWords := (Datum.flag assistant.preferences.wholeWords).shown
  Preferences.traced assistant.preferences
    (traceLine "" ("transcript=[" ++ assistant.transcript.shown ++ "], word_boundaries=" ++ wholeWords))

/-- A new assistant for a transcript, with the preferences of the settings where there are any. -/
def hire (transcript : Datum) (settings : Option Settings.Manager) (keeper : Option Keeper)
    (speaker : Option Speech.Speaker) (trace verbose : Bool) : Trial Settings.Fault Assistant := do
  let preferences : Preferences <-
    match settings with
    | some manager => Preferences.ofSettings manager trace verbose
    | none => pure { trace, verbose }
  let assistant : Assistant := { transcript, preferences, keeper, speaker }
  Trial.tell assistant.startEvents
  return assistant

def normalized (transcript : Datum) (wholeWords : Bool) : Except Number.Overlong String :=
  match transcript with
  | .none => .ok ""
  | heard => Phrase.normalize heard.shown wholeWords

def understand (assistant : Assistant) : Told (Outcome String) :=
  match normalized assistant.transcript assistant.preferences.wholeWords with
  | .error overlong => pure (.error (.overlong overlong), assistant)
  | .ok expression =>
    ⟨(.ok expression, { assistant with expression := .text expression }),
      Preferences.traced assistant.preferences (traceLine ".run_prompt"
        (Phrase.understood assistant.transcript.shown expression))⟩

def expressionText (assistant : Assistant) : String :=
  match assistant.expression with
  | .none => ""
  | given => given.shown

def evaluate (assistant : Assistant) :
    Told (Except (Failure Refusal) Float × Assistant) := do
  let outcome <- Evaluation.evaluate assistant.expressionText assistant.preferences.trace
  match outcome with
  | .ok value => return (.ok value, { assistant with failure := none, value := .real value })
  | .error failure =>
    Told.tell (Preferences.traced assistant.preferences
      (traceLine ".run_code" (failure.category.name ++ ": " ++ failure.detail)))
    return (.error failure, { assistant with failure := some failure, value := .none })

def display (value : Datum) : Except Fault String :=
  match value with
  | .real number => .ok (Number.display number)
  | .flag set => .ok (Number.display (if set then 1.0 else 0.0))
  | .whole number => (Number.displayInteger number).mapError .overlong
  | _ => .error .noNumber

def answerDraft (assistant : Assistant) (answer : String) : Draft :=
  { transcript := assistant.transcript, expression := assistant.expression
    result := .text answer, value := assistant.value }

def format (assistant : Assistant) : Told (Outcome String) :=
  match display assistant.value with
  | .error fault => pure (.error fault, assistant)
  | .ok answer =>
    let answered := { assistant with answer := some answer }
    match (assistant.answerDraft answer).check with
    | .error complaints => pure (.error (.record complaints), answered)
    | .ok record =>
      let recorded := { answered with record := some record }
      match record.sentence assistant.preferences.template with
      | .error fault => pure (.error (.template fault), recorded)
      | .ok sentence =>
        ⟨(.ok sentence, { recorded with sentence := some sentence }),
          Preferences.traced assistant.preferences (traceLine ".run_formatter" sentence)⟩

def save (now : Moment) (assistant : Assistant) : Told Assistant := do
  match assistant.preferences.savesAnswers, assistant.keeper with
  | true, some keeper =>
    let answer := assistant.answer.elim .none .text
    match <- keeper.save now assistant.transcript assistant.expression answer with
    | .ok keeper => return { assistant with keeper := some keeper }
    | .error reason =>
      Told.tell [.logged .warning .assistant ("Failed to save calculation history: " ++ reason)]
      return assistant
  | _, _ => return assistant

def speak (assistant : Assistant) : Told (Except Fault Bool) :=
  match assistant.record, assistant.speaker with
  | some record, some speaker =>
    if record.succeeded then
      match record.sentence assistant.preferences.template with
      | .error fault => pure (.error (.template fault))
      | .ok sentence => .ok <$> speaker.speak sentence
    else pure (.ok false)
  | _, _ => pure (.ok false)

def failureDraft (transcript expression : Datum) (message category : String) : Draft :=
  { transcript, expression, status := .text Status.error.name, message := .text message
    errorCategory := .text category }

def enter (draft : Draft) (assistant : Assistant) : Except Fault Record × Assistant :=
  match draft.check with
  | .ok record => (.ok record, { assistant with record := some record })
  | .error complaints => (.error (.record complaints), assistant)

def publishFailure (message : String) (failure : Failure Refusal) (assistant : Assistant) :
    Told (Outcome Record) :=
  let category := failure.category.name
  ⟨enter (failureDraft assistant.transcript assistant.expression message category)
      { assistant with answer := none, sentence := some message },
    [.logged .info .assistant ("Could not calculate [" ++ assistant.transcript.shown ++ "] → ["
      ++ assistant.expression.shown ++ "]: " ++ category)]⟩

def publishAnswer (now : Moment) (assistant : Assistant) : Told (Outcome Record) := do
  match <- assistant.format with
  | (.error fault, assistant) => return (.error fault, assistant)
  | (.ok _, assistant) =>
    let assistant <- assistant.save now
    match <- assistant.speak, assistant.record with
    | .ok _, some record => return (.ok record, assistant)
    | .ok _, none => return (.error .noNumber, assistant)
    | .error fault, _ => return (.error fault, assistant)

def publish (now : Moment) (message : String) (assistant : Assistant) : Told (Outcome Record) := do
  match <- assistant.evaluate with
  | (.ok _, assistant) => assistant.publishAnswer now
  | (.error failure, assistant) => assistant.publishFailure message failure

def answerTranscript (now : Moment) (assistant : Assistant) : Told (Outcome Record) := do
  match <- assistant.understand with
  | (.error fault, assistant) => return (.error fault, assistant)
  | (.ok _, assistant) => assistant.publish now Message.calculationFailed

def correction (edited : Datum) : Except Fault String :=
  match edited with
  | .text given => .ok (Text.stripped given)
  | given => if given.isPresent then .error (.noText given.kind) else .ok ""

/-- Answers an expression that the user corrected. A blank one is not evaluated. -/
def correct (now : Moment) (edited : Datum) (assistant : Assistant) : Told (Outcome Record) :=
  match correction edited with
  | .error fault => pure (.error fault, assistant)
  | .ok expression =>
    if expression.isEmpty then
      pure (enter (failureDraft assistant.transcript (.text "") Message.emptyEdit
        Category.empty.name) assistant)
    else
      ({ assistant with expression := .text expression }).publish now Message.invalidEdit

end Assistant

end SpokenArithmetic
