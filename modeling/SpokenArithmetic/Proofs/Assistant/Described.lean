import SpokenArithmetic.Proofs.Answer.Filled
import SpokenArithmetic.Proofs.Assistant.Session

set_option autoImplicit false

namespace SpokenArithmetic.Assistant

open Arithmetic (Refusal)

section Describing

def Describes (assistant : Assistant) (record : Record) : Prop :=
  match record.status with
  | .ok =>
    assistant.failure = none ∧ (exists value, record.value = some value ∧ assistant.value = .real value) ∧
      assistant.answer = some record.result ∧ assistant.expression = .text record.expression ∧
      exists sentence, assistant.sentence = some sentence ∧
        Template.fill assistant.preferences.template record.result = .ok sentence
  | .error =>
    assistant.value = .none ∧ assistant.answer = none ∧
      (exists failure, assistant.failure = some failure ∧ record.errorCategory = some failure.category.name) ∧
      assistant.sentence = some record.message

def Demand.IsBlank (demand : Demand) : Prop :=
  exists edited, demand = .correct edited ∧ correction edited = .ok ""

/-- What is known behind each demand. A transcript has a record unless it has a number that is too long, and a
correction that is a text has one in any case. -/
structure Turn.Accounted (turn : Turn) : Prop where
  answered : turn.demand = .answer -> (exists record, turn.reply = .calculated (.ok record)) ∨
    exists overlong, turn.reply = .calculated (.error (.overlong overlong)) ∧
      normalized turn.before.transcript turn.before.preferences.wholeWords = .error overlong
  corrected : forall given, turn.demand = .correct (.text given) -> exists record, turn.reply = .calculated (.ok record)
  recorded : forall record, turn.reply.record? = some record -> turn.after.record = some record
  described : forall record, turn.reply.record? = some record -> ¬turn.demand.IsBlank -> turn.after.Describes record
  blank : turn.demand.IsBlank -> exists transcript, turn.before.transcript = .text transcript ∧
    turn.reply = .calculated (.ok (blankRecord transcript)) ∧
    turn.after = { turn.before with record := some (blankRecord transcript) }
  failed : forall fault, turn.reply = .calculated (.error fault) -> turn.after = turn.before

structure Ready (assistant : Assistant) : Prop where
  heard : exists transcript, assistant.transcript = .text transcript
  plain : Template.OnlyResult assistant.preferences.template

end Describing

section Steps

variable {assistant : Assistant} {now : Moment} {message expression : String}
variable {outcome : Outcome Record} {said : Option String} {demand : Demand}

theorem Publishes.described (published : assistant.Publishes now message expression outcome said)
    (ready : assistant.Ready) :
    exists record, outcome.1 = .ok record ∧ outcome.2.record = some record ∧ outcome.2.Describes record := by
  cases published with
  | failed heard evaluated =>
    exact ⟨_, rfl, rfl, rfl, rfl, ⟨_, rfl, rfl⟩, rfl⟩
  | @answered transcript sentence value heard evaluated filled =>
    obtain ⟨keeper, saved⟩ := save_keeps now
      { assistant.worked message expression (.ok value) with
        record := some (.answered transcript expression value), sentence := some sentence }
    rw [saved]
    exact ⟨_, rfl, rfl, rfl, ⟨value, rfl, rfl⟩, rfl, rfl, sentence, rfl, filled⟩
  | @unfilled transcript value fault heard evaluated unfilled =>
    obtain ⟨sentence, filled⟩ := ready.plain.fills (Number.display value)
    rw [filled] at unfilled
    cases unfilled
  | unheard unheard =>
    obtain ⟨transcript, heard⟩ := ready.heard
    exact absurd heard (unheard transcript)

theorem not_isBlank {edited : Datum} {read : Except Fault String} (same : correction edited = read)
    (present : read ≠ .ok "") : ¬(Demand.correct edited).IsBlank := by
  rintro ⟨_, corrected, blank⟩
  cases corrected
  exact present (same.symm.trans blank)

theorem accounted_described {after : Assistant} {record : Record} (recorded : after.record = some record)
    (described : after.Describes record) (present : ¬demand.IsBlank) :
    Turn.Accounted ⟨assistant, demand, .calculated (.ok record), after⟩ where
  answered _ := .inl ⟨record, rfl⟩
  corrected _ _ := ⟨record, rfl⟩
  recorded _ same := by cases same; exact recorded
  described _ same _ := by cases same; exact described
  blank isBlank := absurd isBlank present
  failed _ same := by cases same

theorem accounted_overlong {overlong : Number.Overlong}
    (stopped : normalized assistant.transcript assistant.preferences.wholeWords = .error overlong) :
    Turn.Accounted ⟨assistant, .answer, .calculated (.error (.overlong overlong)), assistant⟩ where
  answered _ := .inr ⟨overlong, rfl, stopped⟩
  corrected _ same := by cases same
  recorded _ same := by cases same
  described _ same := by cases same
  blank := nofun
  failed _ _ := rfl

theorem accounted_unread {edited : Datum} {fault : Fault} (unread : correction edited = .error fault) :
    Turn.Accounted ⟨assistant, .correct edited, .calculated (.error fault), assistant⟩ where
  answered same := by cases same
  corrected _ same := by cases same; cases unread
  recorded _ same := by cases same
  described _ same := by cases same
  blank isBlank := absurd isBlank (not_isBlank unread nofun)
  failed _ _ := rfl

theorem accounted_blank {edited : Datum} {transcript : String} (blank : correction edited = .ok "")
    (heard : assistant.transcript = .text transcript) :
    Turn.Accounted ⟨assistant, .correct edited, .calculated (.ok (blankRecord transcript)),
      { assistant with record := some (blankRecord transcript) }⟩ where
  answered _ := .inl ⟨_, rfl⟩
  corrected _ _ := ⟨_, rfl⟩
  recorded _ same := by cases same; rfl
  described _ _ present := absurd ⟨edited, rfl, blank⟩ present
  blank _ := ⟨transcript, heard, rfl, rfl⟩
  failed _ same := by cases same

theorem accounted_uncalculated {reply : Reply} {after : Assistant} (unasked : demand ≠ .answer)
    (uncorrected : forall edited, demand ≠ .correct edited)
    (uncalculated : forall outcome, reply ≠ .calculated outcome) :
    Turn.Accounted ⟨assistant, demand, reply, after⟩ where
  answered same := absurd same unasked
  corrected _ same := absurd same (uncorrected _)
  recorded record same := by
    cases reply with
    | calculated outcome => exact absurd rfl (uncalculated outcome)
    | noted | spoken => cases same
  described record same := by
    cases reply with
    | calculated outcome => exact absurd rfl (uncalculated outcome)
    | noted | spoken => cases same
  blank isBlank := by
    obtain ⟨edited, same, _⟩ := isBlank
    exact absurd same (uncorrected edited)
  failed _ same := absurd same (uncalculated _)

theorem Calculates.accounted (calculated : assistant.Calculates now demand outcome said) (ready : assistant.Ready) :
    Turn.Accounted ⟨assistant, demand, .calculated outcome.1, outcome.2⟩ := by
  cases calculated with
  | overlong stopped => exact accounted_overlong stopped
  | answered understood published =>
    obtain ⟨record, returned, recorded, described⟩ := published.described ready
    rw [returned]
    exact accounted_described recorded described nofun
  | unread unread => exact accounted_unread unread
  | blank blank heard => exact accounted_blank blank heard
  | blankUnheard blank unheard =>
    obtain ⟨transcript, heard⟩ := ready.heard
    exact absurd heard (unheard transcript)
  | corrected read present published =>
    obtain ⟨record, returned, recorded, described⟩ := published.described ready
    rw [returned]
    exact accounted_described recorded described (not_isBlank read fun same => present (Except.ok.inj same))

theorem Ready.framed {after : Assistant} (ready : assistant.Ready) (framed : assistant.Framed after) :
    after.Ready := by
  constructor
  next => rw [framed.transcript]; exact ready.heard
  next => rw [framed.preferences]; exact ready.plain

theorem perform_accounted (now : Moment) (demand : Demand) (ready : assistant.Ready) :
    let performed := assistant.perform now demand
    Turn.Accounted ⟨assistant, demand, performed.result.1, performed.result.2⟩ ∧ performed.result.2.Ready := by
  cases demand with
  | hear transcript => exact ⟨accounted_uncalculated nofun nofun nofun, ⟨transcript, rfl⟩, ready.plain⟩
  | answer =>
    obtain ⟨said, calculated, _⟩ := answerTranscript_calculates now assistant
    exact ⟨calculated.accounted ready, ready.framed calculated.framed⟩
  | correct edited =>
    obtain ⟨said, calculated, _⟩ := correct_calculates now edited assistant
    exact ⟨calculated.accounted ready, ready.framed calculated.framed⟩
  | again => exact ⟨accounted_uncalculated nofun nofun nofun, ready⟩

end Steps

section Runs

/-- In every session, a calculation leaves fields that describe its record, unless it is a blank correction: that
one leaves them as they were and only sets the record. A calculation without a record changes nothing. -/
theorem attend_accounted (calls : List (Moment × Demand)) {assistant : Assistant} (ready : assistant.Ready) :
    forall turn, turn ∈ (assistant.attend calls).result.1 -> turn.Accounted := by
  induction calls generalizing assistant with
  | nil => exact fun turn member => absurd member List.not_mem_nil
  | cons call rest ih =>
    obtain ⟨now, demand⟩ := call
    obtain ⟨accounted, readyLater⟩ := perform_accounted now demand ready
    intro turn member
    rw [(attend_cons now demand rest assistant).1] at member
    rcases List.mem_cons.1 member with same | later
    next =>
      rw [same]
      exact accounted
    next => exact ih readyLater turn later

def listener : Assistant :=
  { transcript := .text "2+2" }

def slip : List (Moment × Demand) :=
  let now : Moment := { year := 2000, month := 1, day := 1 }
  [(now, .answer), (now, .correct (.text "  "))]

theorem attend_accounted_slip :
    exists answered blanked : Turn, (listener.attend slip).result.1 = [answered, blanked] ∧
      blanked.after.record = some (blankRecord "2+2") ∧ ¬blanked.after.Describes (blankRecord "2+2") ∧
      blanked.after.failure = none ∧ blanked.after.value = .real 4.0 ∧ blanked.after.answer = some "4" ∧
      blanked.after.sentence = some "The answer is 4" := by
  have ready : listener.Ready := ⟨⟨"2+2", rfl⟩, Template.onlyResult_standard⟩
  have accounted := attend_accounted slip ready
  have shown : (listener.attend slip).result.1.map (fun turn =>
      (turn.reply.record?, turn.after.answer, turn.after.sentence)) =
      [(some (.answered "2+2" "2+2" 4.0), some "4", some "The answer is 4"),
        (some (blankRecord "2+2"), some "4", some "The answer is 4")] := by decide +kernel
  rw [slip, (attend_cons _ .answer _ listener).1, (attend_cons _ (.correct (.text "  ")) [] _).1] at *
  generalize listener.perform _ .answer = first at *
  generalize first.result.2.perform _ _ = second at *
  simp only [List.map_cons, List.cons.injEq, Prod.mk.injEq] at shown
  obtain ⟨⟨answered, -⟩, ⟨blanked, answer, sentence⟩, -⟩ := shown
  have late := accounted _ (List.mem_cons_of_mem _ List.mem_cons_self)
  obtain ⟨noFailure, ⟨value, same, held⟩, -⟩ := (accounted _ List.mem_cons_self).described _ answered nofun
  cases same
  obtain ⟨transcript, -, -, kept⟩ := late.blank ⟨.text "  ", rfl, rfl⟩
  refine ⟨_, _, rfl, late.recorded _ blanked, ?_, ?_, ?_, answer, sentence⟩
  next =>
    rintro ⟨-, none, -⟩
    rw [none] at answer
    cases answer
  next => rw [kept]; exact noFailure
  next => rw [kept]; exact held

end Runs

end SpokenArithmetic.Assistant
