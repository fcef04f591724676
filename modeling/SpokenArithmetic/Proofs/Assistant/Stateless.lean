import SpokenArithmetic.Proofs.Answer.Filled
import SpokenArithmetic.Proofs.Assistant.Session

set_option autoImplicit false

namespace SpokenArithmetic.Assistant

open Arithmetic (Refusal)

section Settling

def returned (template : String) : Except (List FieldComplaint) Record -> Except Fault Record
  | .error complaints => .error (.record complaints)
  | .ok record =>
    match record.sentence template with
    | .error fault => .error (.template fault)
    | .ok _ => .ok record

theorem answer_text (expression message : String) (transcript : Datum) (trace : Bool) :
    (Request.answer ⟨.text expression, transcript, .text message⟩ trace).result =
      (Request.draft ⟨.text expression, transcript, .text message⟩ (Evaluation.value expression.toList)).check := by
  rw [Request.answer, Told.result_bind, Phrase.result_attempt]
  rfl

theorem calculateExpression_result (expression transcript message : String) (trace : Bool) :
    (Calculation.calculateExpression expression transcript message trace).result =
      Record.ofOutcome transcript expression message (Evaluation.value expression.toList) := by
  rw [Calculation.calculateExpression, Told.result_bind, Phrase.result_attempt]
  rfl

theorem publish_returned (now : Moment) (message expression : String) (trace : Bool) (assistant : Assistant) :
    (({ assistant with expression := .text expression }).publish now message).result.1 =
      returned assistant.preferences.template
        (Request.answer ⟨.text expression, assistant.transcript, .text message⟩ trace).result := by
  rw [answer_text]
  obtain ⟨said, published, _⟩ := publish_publishes now message expression assistant
  generalize (({ assistant with expression := .text expression }).publish now message).result = result at published
  cases published with
  | failed heard evaluated =>
    rw [heard, check_heard, evaluated]
    rfl
  | answered heard evaluated filled =>
    rw [heard, check_heard, evaluated, Record.ofOutcome, returned, sentence_answered, filled]
  | unfilled heard evaluated unfilled =>
    rw [heard, check_heard, evaluated, Record.ofOutcome, returned, sentence_answered, unfilled]
  | unheard unheard =>
    rw [check_unheard unheard]
    rfl

theorem returned_ok {template : String} (plain : Template.OnlyResult template)
    (transcript expression message : String) (outcome : Except (Failure Refusal) Float) :
    returned template (.ok (Record.ofOutcome transcript expression message outcome)) =
      .ok (Record.ofOutcome transcript expression message outcome) := by
  cases outcome with
  | error failure => rfl
  | ok value =>
    obtain ⟨sentence, filled⟩ := plain.fills (Number.display value)
    rw [returned, Record.ofOutcome, sentence_answered, filled]

end Settling

section Newcomers

variable {phrase : String} {wholeWords trace verbose : Bool}

def newcomer (phrase : String) (wholeWords trace verbose : Bool) (keeper : Option Keeper)
    (speaker : Option Speech.Speaker) : Assistant :=
  { transcript := .text phrase, preferences := { wholeWords, trace, verbose }, keeper, speaker }

theorem publish_newcomer (now : Moment) (message expression : String) (debug : Bool) (keeper : Option Keeper)
    (speaker : Option Speech.Speaker) :
    (({ newcomer phrase wholeWords trace verbose keeper speaker with
      expression := .text expression }).publish now message).result.1 =
        .ok (Calculation.calculateExpression expression phrase message debug).result := by
  rw [publish_returned now message expression debug, answer_text, calculateExpression_result]
  have checked := check_heard phrase expression message (Evaluation.value expression.toList)
  rw [newcomer, checked]
  exact returned_ok Template.onlyResult_standard phrase expression message _

theorem normalized_newcomer (keeper : Option Keeper) (speaker : Option Speech.Speaker) :
    let assistant := newcomer phrase wholeWords trace verbose keeper speaker
    normalized assistant.transcript assistant.preferences.wholeWords = Phrase.normalize phrase wholeWords :=
  Eq.refl (Phrase.normalize phrase wholeWords)

theorem answer_newcomer (now : Moment) (debug : Bool) (keeper : Option Keeper)
    (speaker : Option Speech.Speaker) :
    ((newcomer phrase wholeWords trace verbose keeper speaker).answerTranscript now).result.1 =
      ((Calculation.calculate phrase wholeWords debug).map Told.result).mapError .overlong := by
  have heard := @normalized_newcomer phrase wholeWords trace verbose keeper speaker
  rw [Calculation.calculate]
  cases understood : Phrase.normalize phrase wholeWords with
  | error overlong =>
    rw [understood] at heard
    rw [answerTranscript_overlong now heard]
    rfl
  | ok expression =>
    rw [understood] at heard
    rw [answerTranscript_understood now heard,
      publish_newcomer now Message.calculationFailed expression debug keeper speaker]
    rfl

theorem hire_newcomer (keeper : Option Keeper) (speaker : Option Speech.Speaker) :
    (hire (.text phrase) none keeper speaker trace verbose).run.result =
      .ok (newcomer phrase true trace verbose keeper speaker) := rfl

end Newcomers

section Agreeing

/-- An assistant has the answers of the calculation without one. A new assistant answers every phrase so, and
publishes every expression so, whatever phrase it comes from. An assistant in any state answers every correction
that is not blank with the record of a request for it, unless its template cannot be filled. -/
theorem answers_statelessly (now : Moment) (debug : Bool) :
    (forall (phrase : String) (wholeWords trace verbose : Bool) (keeper : Option Keeper)
        (speaker : Option Speech.Speaker),
      exists hired : Assistant,
        (hire (.text phrase) none keeper speaker trace verbose).run.result = .ok hired ∧
        let assistant := { hired with preferences := { hired.preferences with wholeWords } }
        (assistant.answerTranscript now).result.1 =
          ((Calculation.calculate phrase wholeWords debug).map Told.result).mapError .overlong ∧
        forall expression message,
          (({ assistant with expression := .text expression }).publish now message).result.1 =
            .ok (Calculation.calculateExpression expression phrase message debug).result) ∧
    forall (assistant : Assistant) (edited : String), Text.stripped edited ≠ "" ->
      (assistant.correct now (.text edited)).result.1 =
        returned assistant.preferences.template
          (Request.answer ⟨.text (Text.stripped edited), assistant.transcript, .text Message.invalidEdit⟩
            debug).result := by
  constructor
  next =>
    intro phrase wholeWords trace verbose keeper speaker
    refine ⟨newcomer phrase true trace verbose keeper speaker, hire_newcomer keeper speaker, ?_⟩
    intro assistant
    have told : assistant = newcomer phrase wholeWords trace verbose keeper speaker := rfl
    rw [told]
    refine ⟨answer_newcomer now debug keeper speaker, fun expression message => ?_⟩
    exact publish_newcomer now message expression debug keeper speaker
  next =>
    intro assistant edited present
    have read : correction (.text edited) = .ok (Text.stripped edited) := rfl
    rw [correct_present now read present]
    exact publish_returned now Message.invalidEdit (Text.stripped edited) debug assistant

def squared : Assistant :=
  { transcript := .text "two squared", expression := .text "2^2", value := .real 4.0, answer := some "4"
    sentence := some "The answer is 4", record := some (.answered "two squared" "2^2" 4.0) }

theorem answers_statelessly_sum (now : Moment) :
    Text.stripped " 2+3 " ≠ "" ∧
      (squared.correct now (.text " 2+3 ")).result.1 = .ok (.answered "two squared" "2+3" 5.0) := by
  have present : Text.stripped " 2+3 " ≠ "" := by decide
  have stripped : Text.stripped " 2+3 " = "2+3" := by decide
  have evaluated : (Evaluation.value "2+3".toList).toOption = some 5.0 := by decide +kernel
  refine ⟨present, ?_⟩
  rw [(answers_statelessly now false).2 squared " 2+3 " present, stripped, answer_text,
    Evaluation.value_eq_ok evaluated]
  rfl

def unable : Assistant :=
  { transcript := .text "2+2", preferences := { template := "\x7banswer\x7d" } }

theorem correct_unfilled :
    let now : Moment := { year := 2000, month := 1, day := 1 }
    Text.stripped "7" ≠ "" ∧
      (unable.correct now (.text "7")).result.1 = .error (.template (.unknownField "answer".toList)) ∧
      (Request.answer ⟨.text (Text.stripped "7"), unable.transcript, .text Message.invalidEdit⟩ false).result =
        .ok (.answered "2+2" "7" 7.0) := by
  intro now
  have present : "7" ≠ "" := by decide
  have stripped : Text.stripped "7" = "7" := by decide
  have evaluated : (Evaluation.value "7".toList).toOption = some 7.0 := by decide +kernel
  have answered : (Request.answer ⟨.text "7", unable.transcript, .text Message.invalidEdit⟩ false).result =
      .ok (.answered "2+2" "7" 7.0) := by
    rw [answer_text, Evaluation.value_eq_ok evaluated]
    rfl
  have read : correction (.text "7") = .ok "7" := congrArg Except.ok stripped
  rw [stripped, correct_present now read present, publish_returned now Message.invalidEdit "7" false, answered]
  exact ⟨present, rfl, rfl⟩

end Agreeing

end SpokenArithmetic.Assistant
