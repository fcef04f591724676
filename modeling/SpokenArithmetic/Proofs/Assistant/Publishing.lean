import SpokenArithmetic.Assistant.Basic
import SpokenArithmetic.Proofs.Phrase.Answered

set_option autoImplicit false

namespace SpokenArithmetic

open Arithmetic (Refusal)

section Overhearing

def Event.isWritten : Event -> Bool
  | printed _ => true
  | logged _ _ _ => true
  | _ => false

def Written (events : List Event) : Prop :=
  forall event, event ∈ events -> event.isWritten = true

structure Speech.Speaker.Overheard (speaker : Speech.Speaker) (overhear : Event -> Option String) :
    Prop where
  spoken : forall text, (speaker.speak text).events.filterMap overhear = [text]
  written : forall event, event.isWritten = true -> overhear event = none

variable {speaker : Speech.Speaker} {overhear : Event -> Option String} {events : List Event}

theorem Written.unheard (written : Written events)
    (deaf : forall event, event.isWritten = true -> overhear event = none) : events.filterMap overhear = [] :=
  List.filterMap_eq_nil_iff.2 fun event member => deaf event (written event member)

theorem Speech.Speaker.Overheard.silent (overheard : speaker.Overheard overhear)
    (written : Written events) : events.filterMap overhear = [] :=
  written.unheard overheard.written

theorem written_nil : Written [] := by
  intro event member
  cases member

theorem written_append {first second : List Event} (front : Written first) (back : Written second) :
    Written (first ++ second) := by
  intro event member
  rcases List.mem_append.1 member with member | member
  next => exact front event member
  next => exact back event member

theorem written_single {event : Event} (written : event.isWritten = true) : Written [event] := by
  intro other member
  rw [List.mem_singleton.1 member]
  exact written

theorem written_if {condition : Prop} [Decidable condition] (written : Written events) :
    Written (if condition then events else []) := by
  split
  next => exact written
  next => exact written_nil

end Overhearing

theorem Evaluation.value_eq_ok {text : List Char} {value : Float}
    (found : (Evaluation.value text).toOption = some value) : Evaluation.value text = .ok value := by
  cases outcome : Evaluation.value text with
  | error failure => rw [outcome] at found; cases found
  | ok other => rw [outcome] at found; exact congrArg Except.ok (Option.some.inj found)

theorem Evaluation.written_callEvents (form : List Char) : Written (Evaluation.callEvents form) := by
  unfold Evaluation.callEvents
  split
  next => exact written_nil
  next =>
    intro event member
    obtain ⟨call, _, rfl⟩ := List.mem_map.1 member
    rfl

theorem Evaluation.written_failureEvents (text : String) (failure : Failure Refusal) :
    Written (Evaluation.failureEvents text failure) := by
  unfold Evaluation.failureEvents
  split
  next => exact written_nil
  next => exact written_nil
  next => exact written_single rfl
  next => exact written_single rfl

theorem Evaluation.written_traceEvents (text : String) : Written (Evaluation.traceEvents text) := by
  unfold Evaluation.traceEvents
  split
  next => exact written_nil
  next => exact written_append (written_single rfl) (written_callEvents _)

theorem Evaluation.written_evaluate (text : String) (trace : Bool) :
    Written (Evaluation.evaluate text trace).events := by
  unfold Evaluation.evaluate
  rw [Told.events_bind, Told.events_tell]
  refine written_append (written_if (written_traceEvents text)) ?_
  dsimp only
  split
  next => exact written_nil
  next failure _ => exact written_append (written_failureEvents text failure) written_nil

namespace Assistant

variable {assistant : Assistant} {now : Moment} {message expression transcript sentence : String}
variable {failure : Failure Refusal} {value : Float}

theorem written_traced (preferences : Preferences) (text : String) :
    Written (Preferences.traced preferences (.line text)) :=
  written_if (written_single rfl)

section Evaluating

def worked (message expression : String) (outcome : Except (Failure Refusal) Float)
    (assistant : Assistant) : Assistant :=
  match outcome with
  | .ok value =>
    { assistant with expression := .text expression, failure := none, value := .real value
                     answer := some (Number.display value) }
  | .error failure =>
    { assistant with expression := .text expression, failure := some failure, value := .none
                     answer := none, sentence := some message }

theorem evaluate_ok (evaluated : Evaluation.value expression.toList = .ok value) :
    ({ assistant with expression := .text expression }).evaluate.result =
      (.ok value,
        { assistant with expression := .text expression, failure := none, value := .real value }) := by
  have result := Phrase.result_evaluate expression assistant.preferences.trace
  rw [evaluated] at result
  unfold evaluate
  simp only [Told.result_bind, expressionText, Datum.shown, result]
  rfl

theorem evaluate_error (evaluated : Evaluation.value expression.toList = .error failure) :
    ({ assistant with expression := .text expression }).evaluate.result =
      (.error failure,
        { assistant with expression := .text expression, failure := some failure, value := .none }) := by
  have result := Phrase.result_evaluate expression assistant.preferences.trace
  rw [evaluated] at result
  unfold evaluate
  simp only [Told.result_bind, expressionText, Datum.shown, result]
  rfl

theorem written_evaluate (assistant : Assistant) : Written assistant.evaluate.events := by
  unfold evaluate
  rw [Told.events_bind]
  refine written_append (Evaluation.written_evaluate _ _) ?_
  split
  next => exact written_nil
  next =>
    rw [Told.events_bind, Told.events_tell]
    exact written_append (written_traced _ _) written_nil

end Evaluating

section Recording

def unheardComplaints : List FieldComplaint :=
  [("transcript", .notText)]

theorem check_heard (transcript expression message : String) (outcome : Except (Failure Refusal) Float) :
    (Request.draft ⟨.text expression, .text transcript, .text message⟩ outcome).check =
      .ok (Record.ofOutcome transcript expression message outcome) := by
  cases outcome with
  | ok value => rfl
  | error failure => rfl

theorem check_unheard {given : Datum} (unheard : forall text, given ≠ .text text)
    (expression message : String) (outcome : Except (Failure Refusal) Float) :
    (Request.draft ⟨.text expression, given, .text message⟩ outcome).check =
      .error unheardComplaints := by
  cases given with
  | text text => exact absurd rfl (unheard text)
  | none | flag | whole | real | other => cases outcome <;> rfl

theorem sentence_answered (template transcript expression : String) (value : Float) :
    (Record.answered transcript expression value).sentence template =
      Template.fill template (Number.display value) := rfl

end Recording

section Formatting

theorem written_format (assistant : Assistant) : Written assistant.format.events := by
  unfold format
  split
  next => exact written_nil
  next =>
    dsimp only
    split
    next => exact written_nil
    next =>
      split
      next => exact written_nil
      next => exact written_traced _ _

def valued (expression : String) (value : Float) (assistant : Assistant) : Assistant :=
  { assistant with expression := .text expression, failure := none, value := .real value }

theorem format_heard (message expression : String) (value : Float)
    (heard : assistant.transcript = .text transcript) :
    (assistant.valued expression value).format.result =
      let recorded := { assistant.worked message expression (.ok value) with
        record := some (.answered transcript expression value) }
      match Template.fill assistant.preferences.template (Number.display value) with
      | .ok sentence => (.ok sentence, { recorded with sentence := some sentence })
      | .error fault => (.error (.template fault), recorded) := by
  have checked : ((assistant.valued expression value).answerDraft (Number.display value)).check =
      .ok (.answered transcript expression value) := by
    rw [valued, answerDraft, heard]
    exact check_heard transcript expression message (.ok value)
  unfold format
  rw [show display (assistant.valued expression value).value = .ok (Number.display value) from rfl]
  dsimp only
  rw [checked]
  dsimp only
  rw [sentence_answered, valued]
  cases Template.fill assistant.preferences.template (Number.display value) <;> rfl

theorem format_unheard (message expression : String) (value : Float)
    (unheard : forall text, assistant.transcript ≠ .text text) :
    (assistant.valued expression value).format.result =
      (.error (.record unheardComplaints), assistant.worked message expression (.ok value)) := by
  have checked : ((assistant.valued expression value).answerDraft (Number.display value)).check =
      .error unheardComplaints := check_unheard unheard expression message (.ok value)
  unfold format
  rw [show display (assistant.valued expression value).value = .ok (Number.display value) from rfl]
  dsimp only
  rw [checked]
  rfl

end Formatting

section Saving

theorem written_save (now : Moment) (assistant : Assistant) : Written (assistant.save now).events := by
  unfold save
  split
  next keeper _ _ =>
    rw [Told.events_bind]
    refine written_append ?_ ?_
    next =>
      cases keeper with
      | history kept =>
        unfold Keeper.save History.save
        simp only [Told.events_bind, Told.events_tell, Told.events_pure, List.append_nil]
        exact written_if (written_single rfl)
      | refusing reason => exact written_nil
    next =>
      split
      next => exact written_nil
      next => exact written_append (written_single rfl) written_nil
  next => exact written_nil

theorem save_keeps (now : Moment) (assistant : Assistant) :
    exists keeper, (assistant.save now).result = { assistant with keeper := keeper } := by
  unfold save
  split
  next =>
    rw [Told.result_bind]
    split
    next keeper _ => exact ⟨some keeper, rfl⟩
    next => exact ⟨assistant.keeper, rfl⟩
  next => exact ⟨assistant.keeper, rfl⟩

end Saving

section Speaking

variable {record : Record} {speaker : Speech.Speaker} {overhear : Event -> Option String}

theorem speak_succeeded (recorded : assistant.record = some record) (succeeded : record.succeeded = true)
    (said : record.sentence assistant.preferences.template = .ok sentence) :
    exists taken, assistant.speak.result = .ok taken := by
  unfold speak
  rw [recorded]
  cases assistant.speaker with
  | none => exact ⟨false, rfl⟩
  | some speaker =>
    dsimp only
    rw [if_pos succeeded, said]
    exact ⟨_, rfl⟩

theorem overheard_speak (speaks : assistant.speaker = some speaker) (overheard : speaker.Overheard overhear)
    (recorded : assistant.record = some record) (succeeded : record.succeeded = true)
    (said : record.sentence assistant.preferences.template = .ok sentence) :
    assistant.speak.events.filterMap overhear = [sentence] := by
  unfold speak
  rw [recorded, speaks]
  dsimp only
  rw [if_pos succeeded, said]
  simpa using overheard.spoken sentence

end Speaking

section Publishing

/-- The ways in which publishing an expression ends: the reply and the assistant behind it, and the sentence
that is spoken, if one is. -/
inductive Publishes (now : Moment) (message expression : String) (assistant : Assistant) :
    Outcome Record -> Option String -> Prop where
  | failed {transcript : String} {failure : Failure Refusal} (heard : assistant.transcript = .text transcript)
    (evaluated : Evaluation.value expression.toList = .error failure) :
    Publishes now message expression assistant
      (.ok (.failed transcript expression message failure.category),
        { assistant.worked message expression (.error failure) with
          record := some (.failed transcript expression message failure.category) })
      none
  | answered {transcript sentence : String} {value : Float} (heard : assistant.transcript = .text transcript)
    (evaluated : Evaluation.value expression.toList = .ok value)
    (filled : Template.fill assistant.preferences.template (Number.display value) = .ok sentence) :
    Publishes now message expression assistant
      (.ok (.answered transcript expression value),
        ({ assistant.worked message expression (.ok value) with
          record := some (.answered transcript expression value), sentence := some sentence }.save now).result)
      (some sentence)
  | unfilled {transcript : String} {value : Float} {fault : Template.Fault}
    (heard : assistant.transcript = .text transcript)
    (evaluated : Evaluation.value expression.toList = .ok value)
    (unfilled : Template.fill assistant.preferences.template (Number.display value) = .error fault) :
    Publishes now message expression assistant
      (.error (.template fault),
        { assistant.worked message expression (.ok value) with
          record := some (.answered transcript expression value) })
      none
  | unheard (unheard : forall text, assistant.transcript ≠ .text text) :
    Publishes now message expression assistant
      (.error (.record unheardComplaints),
        assistant.worked message expression (Evaluation.value expression.toList))
      none

structure Framed (before after : Assistant) : Prop where
  transcript : after.transcript = before.transcript
  preferences : after.preferences = before.preferences
  speaker : after.speaker = before.speaker

theorem Publishes.framed {outcome : Outcome Record} {said : Option String}
    (published : assistant.Publishes now message expression outcome said) : assistant.Framed outcome.2 := by
  cases published with
  | failed | unfilled => exact ⟨rfl, rfl, rfl⟩
  | @answered transcript sentence value =>
    obtain ⟨keeper, saved⟩ := save_keeps now
      { assistant.worked message expression (.ok value) with
        record := some (.answered transcript expression value), sentence := some sentence }
    rw [saved]
    exact ⟨rfl, rfl, rfl⟩
  | unheard unheard =>
    cases Evaluation.value expression.toList <;> exact ⟨rfl, rfl, rfl⟩

theorem publishAnswer_formatted (now : Moment) {record : Record} {told : Assistant} {given : String}
    (formatted : assistant.format.result = (.ok given, told)) (recorded : told.record = some record)
    (succeeded : record.succeeded = true)
    (said : record.sentence told.preferences.template = .ok sentence) :
    (assistant.publishAnswer now).result = (.ok record, (told.save now).result) ∧
      forall speaker overhear, told.speaker = some speaker -> speaker.Overheard overhear ->
        (assistant.publishAnswer now).events.filterMap overhear = [sentence] := by
  obtain ⟨keeper, saved⟩ := save_keeps now told
  have kept : (told.save now).result.record = some record := by rw [saved]; exact recorded
  have same : record.sentence (told.save now).result.preferences.template = .ok sentence := by
    rw [saved]
    exact said
  obtain ⟨taken, spoken⟩ := speak_succeeded kept succeeded same
  unfold publishAnswer
  constructor
  next =>
    rw [Told.result_bind, formatted]
    dsimp only
    rw [Told.result_bind, Told.result_bind, spoken, kept]
    rfl
  next =>
    intro speaker overhear speaks overheard
    have speaking : (told.save now).result.speaker = some speaker := by rw [saved]; exact speaks
    -- Formatting and saving only write, so what is heard comes from speaking the record that was just set.
    have heard := overheard_speak speaking overheard kept succeeded same
    rw [Told.events_bind, formatted, List.filterMap_append, overheard.silent (written_format assistant)]
    dsimp only
    rw [Told.events_bind, List.filterMap_append, overheard.silent (written_save now told), Told.events_bind,
      List.filterMap_append, heard, spoken, kept]
    rfl

theorem publishAnswer_unformatted (now : Moment) {told : Assistant} {fault : Fault}
    (formatted : assistant.format.result = (.error fault, told)) :
    (assistant.publishAnswer now).result = (.error fault, told) ∧
      forall (speaker : Speech.Speaker) overhear, speaker.Overheard overhear ->
        (assistant.publishAnswer now).events.filterMap overhear = [] := by
  unfold publishAnswer
  constructor
  next =>
    rw [Told.result_bind, formatted]
    rfl
  next =>
    intro speaker overhear overheard
    rw [Told.events_bind, formatted, List.filterMap_append, overheard.silent (written_format assistant)]
    rfl

theorem enter_ok {draft : Draft} {record : Record} (checked : draft.check = .ok record) (assistant : Assistant) :
    enter draft assistant = (.ok record, { assistant with record := some record }) := by
  rw [enter, checked]

theorem enter_error {draft : Draft} {complaints : List FieldComplaint}
    (checked : draft.check = .error complaints) (assistant : Assistant) :
    enter draft assistant = (.error (.record complaints), assistant) := by
  rw [enter, checked]

theorem heard_or_not (given : Datum) : (exists text, given = .text text) ∨ forall text, given ≠ .text text := by
  cases given with
  | text text => exact .inl ⟨text, rfl⟩
  | none | flag | whole | real | other => exact .inr fun text => nofun

theorem publishes_failure (evaluated : Evaluation.value expression.toList = .error failure) :
    assistant.Publishes now message expression
      (enter (failureDraft assistant.transcript (.text expression) message failure.category.name)
        (assistant.worked message expression (.error failure))) none := by
  rcases heard_or_not assistant.transcript with ⟨transcript, heard⟩ | unheard
  next =>
    have checked : (failureDraft (.text transcript) (.text expression) message failure.category.name).check = _ :=
      check_heard transcript expression message (.error failure)
    rw [heard, enter_ok checked]
    exact .failed heard evaluated
  next =>
    have refused : (failureDraft assistant.transcript (.text expression) message failure.category.name).check = _ :=
      check_unheard unheard expression message (.error failure)
    rw [enter_error refused, ← evaluated]
    exact .unheard unheard

theorem publishes_answer (now : Moment) (message : String) (assistant : Assistant)
    (evaluated : Evaluation.value expression.toList = .ok value) :
    let published := (assistant.valued expression value).publishAnswer now
    exists said, assistant.Publishes now message expression published.result said ∧
      forall speaker overhear, assistant.speaker = some speaker -> speaker.Overheard overhear ->
        published.events.filterMap overhear = said.toList := by
  rcases heard_or_not assistant.transcript with ⟨transcript, heard⟩ | unheard
  next =>
    have formatted := format_heard message expression value heard
    cases filled : Template.fill assistant.preferences.template (Number.display value) with
    | ok sentence =>
      rw [filled] at formatted
      have published := publishAnswer_formatted now formatted rfl rfl filled
      refine ⟨some sentence, ?_, published.2⟩
      rw [published.1]
      exact .answered heard evaluated filled
    | error fault =>
      rw [filled] at formatted
      have refused := publishAnswer_unformatted now formatted
      refine ⟨none, ?_, fun speaker overhear _ => refused.2 speaker overhear⟩
      rw [refused.1]
      exact .unfilled heard evaluated filled
  next =>
    have refused := publishAnswer_unformatted now (format_unheard message expression value unheard)
    refine ⟨none, ?_, fun speaker overhear _ => refused.2 speaker overhear⟩
    rw [refused.1, ← evaluated]
    exact .unheard unheard

theorem publish_publishes (now : Moment) (message expression : String) (assistant : Assistant) :
    let published := ({ assistant with expression := .text expression }).publish now message
    exists said, assistant.Publishes now message expression published.result said ∧
      forall speaker overhear, assistant.speaker = some speaker -> speaker.Overheard overhear ->
        published.events.filterMap overhear = said.toList := by
  dsimp only
  unfold publish
  rw [Told.result_bind, Told.events_bind]
  have quiet := written_evaluate { assistant with expression := .text expression }
  -- A failure never reaches the speaker; a value goes on to be formatted, saved and spoken.
  cases evaluated : Evaluation.value expression.toList with
  | error failure =>
    rw [evaluate_error evaluated]
    refine ⟨none, publishes_failure evaluated, fun speaker overhear _ overheard => ?_⟩
    exact overheard.silent (written_append quiet (written_single rfl))
  | ok value =>
    rw [evaluate_ok evaluated]
    obtain ⟨said, published, spoken⟩ := publishes_answer now message assistant evaluated
    refine ⟨said, published, fun speaker overhear speaks overheard => ?_⟩
    rw [List.filterMap_append, overheard.silent quiet]
    exact spoken speaker overhear speaks overheard

end Publishing

end Assistant

end SpokenArithmetic
