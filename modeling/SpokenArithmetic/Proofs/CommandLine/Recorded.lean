import SpokenArithmetic.Proofs.Assistant.Logs
import SpokenArithmetic.Proofs.Assistant.Stateless
import SpokenArithmetic.Proofs.CommandLine.Configured
import SpokenArithmetic.Proofs.History.Committed

set_option autoImplicit false

namespace SpokenArithmetic

section Noting

variable {now : Moment} {record : Record} {history : History} {rows : List Row}

def Record.row (now : Moment) (record : Record) : Row :=
  ⟨now, record.transcript, record.expression, record.result⟩

def Record.logged (now : Moment) (record : Record) (rows : List Row) : List Row :=
  if record.succeeded then rows ++ [record.row now] else rows

def History.noting (now : Moment) (record : Record) (history : History) : History :=
  if record.succeeded then
    (history.save now (.text record.transcript) (.text record.expression) (.text record.result)).result.2
  else history

def History.noted (saves : Bool) (now : Moment) (record : Record) (history : History) : History :=
  if saves then history.noting now record else history

theorem noting_numbered (numbered : history.table.entries = numberedFrom 1 rows) (now : Moment) (record : Record) :
    (history.noting now record).table.entries = numberedFrom 1 (record.logged now rows) := by
  unfold History.noting Record.logged
  split
  next =>
    have saved := History.perform_numbered numbered
      (.save now (.text record.transcript) (.text record.expression) (.text record.result))
    rw [History.Operation.commits, History.kept_text, History.kept_text, History.kept_text] at saved
    exact saved
  next => exact numbered

theorem noting_place (now : Moment) (record : Record) (history : History) :
    (history.noting now record).place = history.place := by
  unfold History.noting
  split <;> rfl

end Noting

namespace Assistant

variable {assistant : Assistant} {transcript : String} {kept : History}

structure Keeping (transcript : String) (kept : History) (assistant : Assistant) : Prop where
  heard : assistant.transcript = .text transcript
  keeper : assistant.keeper = some (.history kept)
  saves : assistant.preferences.savesAnswers = true
  plain : Template.OnlyResult assistant.preferences.template

structure Notes (now : Moment) (kept : History) (record : Record) (outcome : Outcome Record) : Prop where
  given : outcome.1 = .ok record
  noted : outcome.2.keeper = some (.history (kept.noting now record))

theorem publish_noted (history : Option History) (heard : assistant.transcript = .text transcript)
    (keeper : assistant.keeper = history.map Keeper.history)
    (plain : Template.OnlyResult assistant.preferences.template) (now : Moment) (message expression : String) :
    let record := Record.ofOutcome transcript expression message (Evaluation.value expression.toList)
    let published := (({ assistant with expression := .text expression }).publish now message).result
    published.1 = .ok record ∧
      published.2.keeper =
        (history.map (History.noted assistant.preferences.savesAnswers now record)).map Keeper.history := by
  have answered : (Request.answer ⟨.text expression, assistant.transcript, .text message⟩ false).result =
      .ok (.ofOutcome transcript expression message (Evaluation.value expression.toList)) := by
    rw [answer_text, heard, check_heard]
  have returned := publish_returned now message expression false assistant
  rw [answered, returned_ok plain] at returned
  refine ⟨returned, ?_⟩
  obtain ⟨said, published, _⟩ := publish_publishes now message expression assistant
  clear returned
  generalize (({ assistant with expression := .text expression }).publish now message).result = outcome at published
  cases published with
  | failed again evaluated =>
    rw [evaluated]
    refine keeper.trans ?_
    cases history <;> cases assistant.preferences.savesAnswers <;> rfl
  | unfilled again evaluated unfilled =>
    -- A template with nothing but the result can be filled.
    obtain ⟨sentence, filled⟩ := plain.fills (Number.display _)
    rw [filled] at unfilled
    cases unfilled
  | unheard unheard => exact absurd heard (unheard transcript)
  | @answered given sentence value again evaluated filled =>
    rw [heard] at again
    cases again
    rw [evaluated]
    unfold save worked
    dsimp only
    rw [keeper, heard]
    cases history <;> cases assistant.preferences.savesAnswers <;> rfl

theorem publish_notes (keeping : assistant.Keeping transcript kept) (now : Moment) (message expression : String) :
    Notes now kept (.ofOutcome transcript expression message (Evaluation.value expression.toList))
      (({ assistant with expression := .text expression }).publish now message).result := by
  obtain ⟨given, noted⟩ := publish_noted (some kept) keeping.heard keeping.keeper keeping.plain now message
    expression
  rw [keeping.saves] at noted
  exact ⟨given, noted⟩

theorem correct_notes (keeping : assistant.Keeping transcript kept) (now : Moment) (edited : String) :
    Notes now kept
      (if Text.stripped edited = "" then blankRecord transcript
      else (Calculation.calculateExpression (Text.stripped edited) transcript Message.invalidEdit false).result)
      (assistant.correct now (.text edited)).result := by
  have read : correction (.text edited) = .ok (Text.stripped edited) := rfl
  by_cases blank : Text.stripped edited = ""
  next =>
    have checked : (failureDraft (.text transcript) (.text "") Message.emptyEdit Category.empty.name).check = _ :=
      check_heard transcript "" Message.emptyEdit (.error (.empty .expression))
    have isBlank : "".isEmpty = true := rfl
    rw [blank] at read
    rw [if_pos blank, correct, read]
    dsimp only
    rw [if_pos isBlank, Told.result_pure, keeping.heard, enter_ok checked]
    exact ⟨rfl, keeping.keeper⟩
  next =>
    rw [if_neg blank, correct_present now read blank, calculateExpression_result]
    exact publish_notes keeping now Message.invalidEdit (Text.stripped edited)

theorem normalized_heard (heard : assistant.transcript = .text transcript) :
    normalized assistant.transcript assistant.preferences.wholeWords =
      Phrase.normalize transcript assistant.preferences.wholeWords := by
  rw [heard]
  rfl

theorem answerTranscript_notes (keeping : assistant.Keeping transcript kept) (now : Moment) {told : Told Record}
    (calculated : Calculation.calculate transcript assistant.preferences.wholeWords false = .ok told) :
    Notes now kept told.result (assistant.answerTranscript now).result := by
  have heard := normalized_heard keeping.heard
  unfold Calculation.calculate at calculated
  cases understood : Phrase.normalize transcript assistant.preferences.wholeWords with
  | error overlong =>
    rw [understood] at calculated
    cases calculated
  | ok expression =>
    rw [understood] at heard calculated
    cases calculated
    rw [answerTranscript_understood now heard, Told.result_bind, calculateExpression_result]
    exact publish_notes keeping now Message.calculationFailed expression

theorem answerTranscript_unread (keeping : assistant.Keeping transcript kept) (now : Moment)
    {overlong : Number.Overlong}
    (calculated : Calculation.calculate transcript assistant.preferences.wholeWords false = .error overlong) :
    (assistant.answerTranscript now).result = (.error (.overlong overlong), assistant) := by
  have heard := normalized_heard keeping.heard
  unfold Calculation.calculate at calculated
  cases understood : Phrase.normalize transcript assistant.preferences.wholeWords with
  | error other =>
    rw [understood] at heard calculated
    cases calculated
    exact answerTranscript_overlong now heard
  | ok expression =>
    rw [understood] at calculated
    cases calculated

end Assistant

end SpokenArithmetic
