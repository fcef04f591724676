import Mathlib.Data.List.Forall2
import SpokenArithmetic.Proofs.Assistant.Session

set_option autoImplicit false

namespace SpokenArithmetic.Assistant

open Arithmetic (Refusal)

section Surroundings

structure Surroundings where
  keeper : Option Keeper := none
  savesAnswers : Bool := false
  speaker : Option Speech.Speaker := none

def within (here : Surroundings) (assistant : Assistant) : Assistant :=
  { assistant with
    keeper := here.keeper, speaker := here.speaker
    preferences := { assistant.preferences with savesAnswers := here.savesAnswers } }

def alone (assistant : Assistant) : Assistant :=
  assistant.within {}

structure SameAnswers (first second : Assistant) : Prop where
  expression : first.expression = second.expression
  value : first.value = second.value
  failure : first.failure = second.failure
  answer : first.answer = second.answer
  sentence : first.sentence = second.sentence
  record : first.record = second.record

def Reply.outcome? : Reply -> Option (Except Fault Record)
  | calculated outcome => some outcome
  | _ => none

end Surroundings

section Concluding

variable {now later : Moment} {message expression : String} {first second : Assistant}
variable {outcome : Outcome Record} {said : Option String}

def concluded (message expression : String) (assistant : Assistant) : Outcome Record :=
  let worked := assistant.worked message expression (Evaluation.value expression.toList)
  match assistant.transcript, Evaluation.value expression.toList with
  | .text transcript, .error failure =>
    let record := Record.failed transcript expression message failure.category
    (.ok record, { worked with record := some record })
  | .text transcript, .ok value =>
    let record := Record.answered transcript expression value
    match Template.fill assistant.preferences.template (Number.display value) with
    | .ok sentence => (.ok record, { worked with record := some record, sentence := some sentence })
    | .error fault => (.error (.template fault), { worked with record := some record })
  | _, _ => (.error (.record unheardComplaints), worked)

structure SameOutcome (one other : Outcome Record) : Prop where
  reply : one.1 = other.1
  alike : one.2.alone = other.2.alone

theorem Publishes.concluded (published : first.Publishes now message expression outcome said) :
    SameOutcome outcome (first.alone.concluded message expression) := by
  unfold Assistant.concluded
  dsimp only
  cases published with
  | failed heard evaluated =>
    rw [show first.alone.transcript = _ from heard, evaluated]
    exact ⟨rfl, rfl⟩
  | @answered transcript sentence value heard evaluated filled =>
    obtain ⟨keeper, saved⟩ := save_keeps now
      { first.worked message expression (.ok value) with
        record := some (.answered transcript expression value), sentence := some sentence }
    rw [show first.alone.transcript = _ from heard, evaluated, saved]
    dsimp only
    rw [show Template.fill first.alone.preferences.template _ = _ from filled]
    exact ⟨rfl, rfl⟩
  | unfilled heard evaluated unfilled =>
    rw [show first.alone.transcript = _ from heard, evaluated]
    dsimp only
    rw [show Template.fill first.alone.preferences.template _ = _ from unfilled]
    exact ⟨rfl, rfl⟩
  | unheard unheard =>
    cases given : first.alone.transcript with
    | text transcript => exact absurd given (unheard transcript)
    | none | flag | whole | real | other => cases Evaluation.value expression.toList <;> exact ⟨rfl, rfl⟩

theorem publish_alike (alike : first.alone = second.alone) (now later : Moment) (message expression : String) :
    SameOutcome (({ first with expression := .text expression }).publish now message).result
      (({ second with expression := .text expression }).publish later message).result := by
  -- Each of the two runs comes to what the assistant concludes alone, and alone they are equal.
  obtain ⟨_, one, _⟩ := publish_publishes now message expression first
  obtain ⟨_, other, _⟩ := publish_publishes later message expression second
  have settled := one.concluded
  rw [alike] at settled
  exact ⟨settled.reply.trans other.concluded.reply.symm, settled.alike.trans other.concluded.alike.symm⟩

end Concluding

section Steps

variable {first second : Assistant}

theorem answer_alike (alike : first.alone = second.alone) (now later : Moment) :
    SameOutcome (first.answerTranscript now).result (second.answerTranscript later).result := by
  have same : normalized first.transcript first.preferences.wholeWords =
      normalized second.transcript second.preferences.wholeWords :=
    congrArg (fun assistant => normalized assistant.transcript assistant.preferences.wholeWords) alike
  cases understood : normalized second.transcript second.preferences.wholeWords with
  | error overlong =>
    rw [answerTranscript_overlong now (same.trans understood), answerTranscript_overlong later understood]
    exact ⟨rfl, alike⟩
  | ok expression =>
    rw [answerTranscript_understood now (same.trans understood), answerTranscript_understood later understood]
    exact publish_alike alike now later Message.calculationFailed expression

theorem enter_alike (alike : first.alone = second.alone) (draft : Draft) :
    SameOutcome (enter draft first) (enter draft second) := by
  unfold enter
  split
  next record _ => exact ⟨rfl, congrArg (fun assistant => { assistant with record := some record }) alike⟩
  next => exact ⟨rfl, alike⟩

theorem correct_alike (alike : first.alone = second.alone) (now later : Moment) (edited : Datum) :
    SameOutcome (first.correct now edited).result (second.correct later edited).result := by
  cases read : correction edited with
  | error fault =>
    rw [correct, correct, read]
    exact ⟨rfl, alike⟩
  | ok expression =>
    by_cases blank : expression.isEmpty = true
    next =>
      have same : first.transcript = second.transcript := (congrArg Assistant.transcript alike :)
      rw [correct, correct, read]
      dsimp only
      rw [if_pos blank, if_pos blank, same]
      exact enter_alike alike _
    next =>
      have present : expression ≠ "" := by simpa using blank
      rw [correct_present now read present, correct_present later read present]
      exact publish_alike alike now later Message.invalidEdit expression

theorem speak_alike (alike : first.alone = second.alone) (heard : first.speaker = second.speaker) :
    first.speak.result = second.speak.result := by
  have record : first.record = second.record := (congrArg Assistant.record alike :)
  have template : first.preferences.template = second.preferences.template :=
    congrArg (fun assistant => assistant.preferences.template) alike
  unfold speak
  rw [record, heard, template]

theorem perform_alike (alike : first.alone = second.alone) (now later : Moment) (demand : Demand) :
    let one := (first.perform now demand).result
    let other := (second.perform later demand).result
    one.1.outcome? = other.1.outcome? ∧ one.2.alone = other.2.alone := by
  cases demand with
  | hear transcript =>
    exact ⟨rfl, congrArg (fun assistant => { assistant with transcript := .text transcript }) alike⟩
  | answer =>
    have same := answer_alike alike now later
    exact ⟨congrArg some same.reply, same.alike⟩
  | correct edited =>
    have same := correct_alike alike now later edited
    exact ⟨congrArg some same.reply, same.alike⟩
  | again => exact ⟨rfl, alike⟩

theorem perform_speaker (now : Moment) (demand : Demand) (assistant : Assistant) :
    (assistant.perform now demand).result.2.speaker = assistant.speaker := by
  cases demand with
  | hear | again => rfl
  | answer =>
    obtain ⟨said, calculated, _⟩ := answerTranscript_calculates now assistant
    exact calculated.framed.speaker
  | correct edited =>
    obtain ⟨said, calculated, _⟩ := correct_calculates now edited assistant
    exact calculated.framed.speaker

theorem perform_reply (alike : first.alone = second.alone) (heard : first.speaker = second.speaker)
    (now later : Moment) (demand : Demand) :
    (first.perform now demand).result.1 = (second.perform later demand).result.1 := by
  cases demand with
  | hear transcript => rfl
  | answer => exact congrArg Reply.calculated (answer_alike alike now later).reply
  | correct edited => exact congrArg Reply.calculated (correct_alike alike now later edited).reply
  | again => exact congrArg Reply.spoken (speak_alike alike heard)

end Steps

section Runs

variable {first second : Assistant} {calls others : List (Moment × Demand)}

theorem sameAnswers_of_alone (alike : first.alone = second.alone) : SameAnswers first second where
  expression := (congrArg Assistant.expression alike :)
  value := (congrArg Assistant.value alike :)
  failure := (congrArg Assistant.failure alike :)
  answer := (congrArg Assistant.answer alike :)
  sentence := (congrArg Assistant.sentence alike :)
  record := (congrArg Assistant.record alike :)

theorem attend_alike (alike : first.alone = second.alone) (same : calls.map Prod.snd = others.map Prod.snd) :
    List.Forall₂ (fun one other => one.reply.outcome? = other.reply.outcome? ∧ SameAnswers one.after other.after)
      (first.attend calls).result.1 (second.attend others).result.1 := by
  induction calls generalizing first second others with
  | nil =>
    cases others with
    | nil => exact .nil
    | cons => cases same
  | cons call rest ih =>
    obtain ⟨now, demand⟩ := call
    cases others with
    | nil => cases same
    | cons other others =>
      obtain ⟨later, _⟩ := other
      obtain ⟨demanded, sameRest⟩ := List.cons.inj same
      cases demanded
      obtain ⟨reply, left⟩ := perform_alike alike now later demand
      rw [(attend_cons now demand rest first).1, (attend_cons later demand others second).1]
      exact .cons ⟨reply, sameAnswers_of_alone left⟩ (ih left sameRest)

theorem attend_replies (alike : first.alone = second.alone) (heard : first.speaker = second.speaker)
    (same : calls.map Prod.snd = others.map Prod.snd) :
    (first.attend calls).result.1.map Turn.reply = (second.attend others).result.1.map Turn.reply := by
  induction calls generalizing first second others with
  | nil =>
    cases others with
    | nil => rfl
    | cons => cases same
  | cons call rest ih =>
    obtain ⟨now, demand⟩ := call
    cases others with
    | nil => cases same
    | cons other others =>
      obtain ⟨later, _⟩ := other
      obtain ⟨demanded, sameRest⟩ := List.cons.inj same
      cases demanded
      have left := (perform_alike alike now later demand).2
      have speaks : (first.perform now demand).result.2.speaker = (second.perform later demand).result.2.speaker := by
        rw [perform_speaker, perform_speaker, heard]
      rw [(attend_cons now demand rest first).1, (attend_cons later demand others second).1, List.map_cons,
        List.map_cons, perform_reply alike heard now later demand, ih left speaks sameRest]

/-- The answers at every turn of a session do not depend on who keeps them, on whether they are saved, on who says
them or on the moment. The history does not show in any reply: without it, the replies are the same. -/
theorem attend_undisturbed (assistant : Assistant) (here there : Surroundings)
    (same : calls.map Prod.snd = others.map Prod.snd) :
    let one := ((assistant.within here).attend calls).result.1
    let other := ((assistant.within there).attend others).result.1
    List.Forall₂ (fun turn turned => turn.reply.outcome? = turned.reply.outcome? ∧
      SameAnswers turn.after turned.after) one other ∧
    one.map Turn.reply =
      ((assistant.within { here with keeper := none }).attend calls).result.1.map Turn.reply :=
  -- Taken out of their surroundings, the two assistants are one and the same.
  ⟨attend_alike rfl same, attend_replies rfl rfl rfl⟩

def refused : Surroundings :=
  { keeper := some (.refusing "disk full"), savesAnswers := true }

def corrections (now : Moment) : List (Moment × Demand) :=
  [(now, .hear "2+2"), (now, .answer), (now, .correct (.text "2+3"))]

theorem attend_undisturbed_refused :
    let early : Moment := { year := 2000, month := 1, day := 1 }
    let late : Moment := { year := 2030, month := 1, day := 1 }
    let one := ((({} : Assistant).within refused).attend (corrections early)).result.1
    let other := ((({} : Assistant).within {}).attend (corrections late)).result.1
    List.Forall₂ (fun turn turned => turn.reply.outcome? = turned.reply.outcome? ∧
      SameAnswers turn.after turned.after) one other ∧
    one.map (·.reply.record?) = [none, some (.answered "2+2" "2+2" 4.0), some (.answered "2+2" "2+3" 5.0)] := by
  intro early late one other
  have same : (corrections early).map Prod.snd = (corrections late).map Prod.snd := rfl
  exact ⟨(attend_undisturbed {} refused {} same).1, by decide +kernel⟩

end Runs

end SpokenArithmetic.Assistant
