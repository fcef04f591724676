import SpokenArithmetic.Answer.Record
import SpokenArithmetic.Answer.Template
import SpokenArithmetic.Calculation.Evaluate
import SpokenArithmetic.Phrase.Normalize

set_option autoImplicit false

namespace SpokenArithmetic

namespace Message

def calculationFailed : String := "Could not calculate. Please try again."

def emptyEdit : String := "Expression cannot be empty"

def invalidEdit : String := "Invalid expression. Please check and try again."

end Message

def Template.standard : String := "The answer is \x7bresult\x7d"

def Record.sentence (template : String) (record : Record) : Except Template.Fault String :=
  if record.succeeded then Template.fill template record.result
  else .ok (if record.message.isEmpty then Message.calculationFailed else record.message)

def Record.sentenceBy (template : Datum) (record : Record) : Except Template.Fault String :=
  match template with
  | .text template => record.sentence template
  | given =>
    if record.succeeded then
      .error (.noMember ("'" ++ given.kind ++ "' object has no attribute 'format'"))
    else record.sentence Template.standard

namespace Calculation

open Arithmetic (Refusal)

def traceLine (text : String) : Event :=
  .line ("calculator.dispatcher: " ++ text)

def attempt (expression subject : String) (trace : Bool) :
    Told (Except (Failure Refusal) Float) := do
  let outcome <- Evaluation.evaluate expression trace
  match outcome with
  | .error failure =>
    let category := failure.category.name
    Told.tell [.logged .info .pipeline s!"Calculation failed for [{subject}]: {category}"]
  | .ok value =>
    let result := Number.display value
    Told.tell (if trace then [traceLine s!"[{expression}] = {result}"] else [])
  return outcome

def calculateExpression (expression transcript message : String) (trace : Bool) : Told Record := do
  let subject := if transcript.isEmpty then expression else transcript
  let outcome <- attempt expression subject trace
  return Record.ofOutcome transcript expression message outcome

def calculate (phrase : String) (wholeWords trace : Bool) :
    Except Number.Overlong (Told Record) := do
  let expression <- Phrase.normalize phrase wholeWords
  return do
    Told.tell (if trace then [traceLine (Phrase.understood phrase expression)] else [])
    calculateExpression expression phrase Message.calculationFailed trace

end Calculation

structure Request where
  expression : Datum
  transcript : Datum := .text ""
  message : Datum := .text Message.calculationFailed

namespace Request

def expressionText (request : Request) : String :=
  match request.expression with
  | .none => ""
  | given => given.shown

def subject (request : Request) : String :=
  if request.transcript.isPresent then request.transcript.shown else request.expression.shown

def draft {R : Type} (request : Request) : Except (Failure R) Float -> Draft
  | .ok value =>
    { transcript := request.transcript, expression := request.expression
      result := .text (Number.display value), value := .real value }
  | .error failure =>
    { transcript := request.transcript, expression := request.expression
      status := .text Status.error.name, message := request.message
      errorCategory := .text failure.category.name }

def answer (request : Request) (trace : Bool) : Told (Except (List FieldComplaint) Record) := do
  let outcome <- Calculation.attempt request.expressionText request.subject trace
  return (request.draft outcome).check

def answerPhrase (phrase : Datum) (wholeWords trace : Bool) :
    Except Number.Overlong (Told (Except (List FieldComplaint) Record)) := do
  let heard := phrase.shown
  let expression <- match phrase with
    | .none => .ok ""
    | _ => Phrase.normalize heard wholeWords
  return do
    Told.tell (if trace then
      [Calculation.traceLine (Phrase.understood heard expression)] else [])
    let transcript := if phrase.isPresent then phrase else .text ""
    answer { expression := .text expression, transcript } trace

end Request

end SpokenArithmetic
