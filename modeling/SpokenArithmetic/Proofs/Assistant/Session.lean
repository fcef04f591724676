import SpokenArithmetic.Proofs.Assistant.Publishing

set_option autoImplicit false

/-!
Sessions with an assistant: it hears transcripts, answers them, takes corrections and says the latest answer
again, in any order. What a single calculation can come to is said once.
-/

namespace SpokenArithmetic.Assistant

open Arithmetic (Refusal)

section Sessions

inductive Demand where
  | hear (transcript : String)
  | answer
  | correct (edited : Datum)
  | again

inductive Reply where
  | noted
  | calculated (outcome : Except Fault Record)
  | spoken (outcome : Except Fault Bool)

def perform (now : Moment) (assistant : Assistant) : Demand -> Told (Reply × Assistant)
  | .hear transcript => pure (.noted, { assistant with transcript := .text transcript })
  | .answer => Prod.map .calculated id <$> assistant.answerTranscript now
  | .correct edited => Prod.map .calculated id <$> assistant.correct now edited
  | .again => (fun outcome => (.spoken outcome, assistant)) <$> assistant.speak

structure Turn where
  before : Assistant
  demand : Demand
  reply : Reply
  after : Assistant

def attend : List (Moment × Demand) -> Assistant -> Told (List Turn × Assistant)
  | [], assistant => pure ([], assistant)
  | (now, demand) :: rest, before => do
    let (reply, after) <- before.perform now demand
    let (turns, last) <- after.attend rest
    return (⟨before, demand, reply, after⟩ :: turns, last)

theorem attend_cons (now : Moment) (demand : Demand) (rest : List (Moment × Demand)) (assistant : Assistant) :
    let performed := assistant.perform now demand
    let later := performed.result.2.attend rest
    (assistant.attend ((now, demand) :: rest)).result =
        (⟨assistant, demand, performed.result.1, performed.result.2⟩ :: later.result.1, later.result.2) ∧
      (assistant.attend ((now, demand) :: rest)).events = performed.events ++ later.events := by
  refine ⟨rfl, ?_⟩
  simp [attend]

namespace Reply

def record? : Reply -> Option Record
  | calculated (.ok record) => some record
  | _ => none

def success? (reply : Reply) : Option Record :=
  reply.record?.filter Record.succeeded

end Reply

end Sessions

section Calculating

variable {assistant : Assistant} {now : Moment}

def blankRecord (transcript : String) : Record :=
  .failed transcript "" Message.emptyEdit .empty

/-- What a calculation comes to: the reply and the assistant behind it, and the sentence that is spoken. -/
inductive Calculates (now : Moment) (assistant : Assistant) : Demand -> Outcome Record -> Option String -> Prop where
  | overlong {overlong : Number.Overlong}
    (stopped : normalized assistant.transcript assistant.preferences.wholeWords = .error overlong) :
    Calculates now assistant .answer (.error (.overlong overlong), assistant) none
  | answered {expression : String} {outcome : Outcome Record} {said : Option String}
    (understood : normalized assistant.transcript assistant.preferences.wholeWords = .ok expression)
    (published : assistant.Publishes now Message.calculationFailed expression outcome said) :
    Calculates now assistant .answer outcome said
  | unread {edited : Datum} {fault : Fault} (unread : correction edited = .error fault) :
    Calculates now assistant (.correct edited) (.error fault, assistant) none
  | blank {edited : Datum} {transcript : String} (blank : correction edited = .ok "")
    (heard : assistant.transcript = .text transcript) :
    Calculates now assistant (.correct edited)
      (.ok (blankRecord transcript), { assistant with record := some (blankRecord transcript) }) none
  | blankUnheard {edited : Datum} (blank : correction edited = .ok "")
    (unheard : forall text, assistant.transcript ≠ .text text) :
    Calculates now assistant (.correct edited) (.error (.record unheardComplaints), assistant) none
  | corrected {edited : Datum} {expression : String} {outcome : Outcome Record} {said : Option String}
    (read : correction edited = .ok expression) (present : expression ≠ "")
    (published : assistant.Publishes now Message.invalidEdit expression outcome said) :
    Calculates now assistant (.correct edited) outcome said

theorem Calculates.framed {demand : Demand} {outcome : Outcome Record} {said : Option String}
    (calculated : assistant.Calculates now demand outcome said) : assistant.Framed outcome.2 := by
  cases calculated with
  | overlong | unread | blank | blankUnheard => exact ⟨rfl, rfl, rfl⟩
  | answered understood published => exact published.framed
  | corrected read present published => exact published.framed

theorem written_understand (assistant : Assistant) : Written assistant.understand.events := by
  unfold understand
  split
  next => exact written_nil
  next => exact written_traced _ _

theorem understand_overlong {overlong : Number.Overlong}
    (stopped : normalized assistant.transcript assistant.preferences.wholeWords = .error overlong) :
    assistant.understand.result = (.error (.overlong overlong), assistant) := by
  rw [understand, stopped]
  rfl

theorem understand_understood {expression : String}
    (understood : normalized assistant.transcript assistant.preferences.wholeWords = .ok expression) :
    assistant.understand.result = (.ok expression, { assistant with expression := .text expression }) := by
  rw [understand, understood]

theorem answerTranscript_overlong (now : Moment) {overlong : Number.Overlong}
    (stopped : normalized assistant.transcript assistant.preferences.wholeWords = .error overlong) :
    (assistant.answerTranscript now).result = (.error (.overlong overlong), assistant) := by
  rw [answerTranscript, Told.result_bind, understand_overlong stopped]
  rfl

theorem answerTranscript_understood (now : Moment) {expression : String}
    (understood : normalized assistant.transcript assistant.preferences.wholeWords = .ok expression) :
    (assistant.answerTranscript now).result =
      (({ assistant with expression := .text expression }).publish now Message.calculationFailed).result := by
  rw [answerTranscript, Told.result_bind, understand_understood understood]

theorem correct_present (now : Moment) {edited : Datum} {expression : String}
    (read : correction edited = .ok expression) (present : expression ≠ "") :
    assistant.correct now edited =
      ({ assistant with expression := .text expression }).publish now Message.invalidEdit := by
  have some : ¬expression.isEmpty = true := by simpa using present
  rw [correct, read]
  exact if_neg some

theorem answerTranscript_calculates (now : Moment) (assistant : Assistant) :
    exists said, assistant.Calculates now .answer (assistant.answerTranscript now).result said ∧
      forall speaker overhear, assistant.speaker = some speaker -> speaker.Overheard overhear ->
        (assistant.answerTranscript now).events.filterMap overhear = said.toList := by
  have quiet := written_understand assistant
  cases understood : normalized assistant.transcript assistant.preferences.wholeWords with
  | error overlong =>
    rw [answerTranscript_overlong now understood]
    refine ⟨none, .overlong understood, fun speaker overhear _ overheard => ?_⟩
    rw [answerTranscript, Told.events_bind, understand_overlong understood, List.filterMap_append,
      overheard.silent quiet]
    rfl
  | ok expression =>
    obtain ⟨said, published, spoken⟩ := publish_publishes now Message.calculationFailed expression assistant
    rw [answerTranscript_understood now understood]
    refine ⟨said, .answered understood published, fun speaker overhear speaks overheard => ?_⟩
    rw [answerTranscript, Told.events_bind, understand_understood understood, List.filterMap_append,
      overheard.silent quiet]
    exact spoken speaker overhear speaks overheard

theorem calculates_blank {edited : Datum} (blank : correction edited = .ok "") :
    assistant.Calculates now (.correct edited)
      (enter (failureDraft assistant.transcript (.text "") Message.emptyEdit Category.empty.name) assistant)
      none := by
  rcases heard_or_not assistant.transcript with ⟨transcript, heard⟩ | unheard
  next =>
    have checked : (failureDraft (.text transcript) (.text "") Message.emptyEdit Category.empty.name).check = _ :=
      check_heard transcript "" Message.emptyEdit (.error (.empty .expression))
    rw [heard, enter_ok checked]
    exact .blank blank heard
  next =>
    have refused : (failureDraft assistant.transcript (.text "") Message.emptyEdit Category.empty.name).check = _ :=
      check_unheard unheard "" Message.emptyEdit (.error (.empty .expression))
    rw [enter_error refused]
    exact .blankUnheard blank unheard

theorem correct_calculates (now : Moment) (edited : Datum) (assistant : Assistant) :
    exists said, assistant.Calculates now (.correct edited) (assistant.correct now edited).result said ∧
      forall speaker overhear, assistant.speaker = some speaker -> speaker.Overheard overhear ->
        (assistant.correct now edited).events.filterMap overhear = said.toList := by
  cases read : correction edited with
  | error fault =>
    rw [correct, read]
    exact ⟨none, .unread read, fun _ _ _ _ => rfl⟩
  | ok expression =>
    by_cases blank : expression = ""
    next =>
      subst blank
      have isBlank : "".isEmpty = true := rfl
      rw [correct, read]
      dsimp only
      rw [if_pos isBlank]
      exact ⟨none, calculates_blank read, fun _ _ _ _ => rfl⟩
    next =>
      obtain ⟨said, published, spoken⟩ := publish_publishes now Message.invalidEdit expression assistant
      rw [correct_present now read blank]
      exact ⟨said, .corrected read blank published, spoken⟩

end Calculating

end SpokenArithmetic.Assistant
