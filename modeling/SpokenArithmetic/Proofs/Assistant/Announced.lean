import SpokenArithmetic.Proofs.Assistant.Chatter
import SpokenArithmetic.Proofs.Assistant.Logs

set_option autoImplicit false

namespace SpokenArithmetic

section Telling

variable {quiet : Prop} {events more last : List Event} {A B : Type}

structure Aside (quiet : Prop) (events : List Event) : Prop where
  chatter : Chatter quiet events
  written : Written events

theorem aside_nil : Aside quiet [] :=
  ⟨chatter_nil, written_nil⟩

theorem Aside.append (front : Aside quiet events) (back : Aside quiet more) : Aside quiet (events ++ more) :=
  ⟨front.chatter.append back.chatter, written_append front.written back.written⟩

def Tells (quiet : Prop) (events last : List Event) : Prop :=
  exists asides, events = asides ++ last ∧ Aside quiet asides

theorem tells_bind {told : Told A} {next : A -> Told B} (first : Aside quiet told.events)
    (rest : Tells quiet (next told.result).events last) : Tells quiet (told >>= next).events last := by
  obtain ⟨asides, later, aside⟩ := rest
  refine ⟨told.events ++ asides, ?_, first.append aside⟩
  rw [Told.events_bind, later, List.append_assoc]

end Telling

section Announcing

def Record.spoken? (template : String) (record : Record) : Option String :=
  if record.succeeded then (Template.fill template record.result).toOption else none

def Record.announcement (template : String) (speaker : Option Speech.Speaker) (record : Record) : List Event :=
  match speaker, record.spoken? template with
  | some speaker, some sentence => (speaker.speak sentence).events
  | _, _ => []

theorem announcement_failed (template : String) (speaker : Option Speech.Speaker)
    (transcript expression message : String) (category : Category) :
    (Record.failed transcript expression message category).announcement template speaker = [] := by
  cases speaker <;> rfl

end Announcing

namespace Assistant

variable {quiet : Prop} {assistant told : Assistant} {now : Moment} {transcript given sentence : String} {record : Record}

theorem Discreet.same (discreet : assistant.Discreet quiet) (preferences : told.preferences = assistant.preferences)
    (keeper : told.keeper = assistant.keeper) : told.Discreet quiet :=
  ⟨preferences ▸ discreet.untraced, keeper ▸ discreet.keeps⟩

theorem speak_announces (recorded : assistant.record = some record) (succeeded : record.succeeded = true)
    (filled : Template.fill assistant.preferences.template record.result = .ok sentence) :
    assistant.speak.events = record.announcement assistant.preferences.template assistant.speaker := by
  have said : record.sentence assistant.preferences.template = .ok sentence := by
    rw [Record.sentence, if_pos succeeded, filled]
  unfold speak Record.announcement Record.spoken?
  rw [recorded, if_pos succeeded, filled]
  cases assistant.speaker with
  | none => rfl
  | some speaker =>
    dsimp only
    rw [if_pos succeeded, said]
    exact Told.events_map _ _

theorem publishAnswer_tells (formatted : assistant.format.result = (.ok given, told))
    (discreet : assistant.Discreet quiet) (discreetly : told.Discreet quiet) (recorded : told.record = some record)
    (succeeded : record.succeeded = true)
    (filled : Template.fill told.preferences.template record.result = .ok sentence) (now : Moment) :
    Tells quiet (assistant.publishAnswer now).events
      (record.announcement told.preferences.template told.speaker) := by
  obtain ⟨keeper, saved⟩ := save_keeps now told
  unfold publishAnswer
  refine tells_bind ⟨chatter_format discreet, written_format assistant⟩ ?_
  rw [formatted]
  refine tells_bind ⟨chatter_save now discreetly, written_save now told⟩ ?_
  rw [saved]
  have spoken : ({ told with keeper := keeper } : Assistant).speak.events = _ :=
    speak_announces recorded succeeded filled
  rw [Told.events_bind, spoken]
  refine ⟨[], ?_, aside_nil⟩
  dsimp only
  rw [recorded]
  split <;> exact List.append_nil _

theorem publish_tells (discreet : assistant.Discreet quiet) (heard : assistant.transcript = .text transcript)
    (plain : Template.OnlyResult assistant.preferences.template) (now : Moment) (message expression : String) :
    Tells quiet (({ assistant with expression := .text expression }).publish now message).events
      ((Record.ofOutcome transcript expression message (Evaluation.value expression.toList)).announcement
        assistant.preferences.template assistant.speaker) := by
  unfold publish
  refine tells_bind ⟨chatter_evaluate (discreet.same rfl rfl), written_evaluate _⟩ ?_
  cases evaluated : Evaluation.value expression.toList with
  | ok value =>
    obtain ⟨sentence, filled⟩ := plain.fills (Number.display value)
    have formatted := format_heard message expression value heard
    rw [filled] at formatted
    rw [evaluate_ok evaluated]
    exact publishAnswer_tells formatted (discreet.same rfl rfl) (discreet.same rfl rfl) rfl rfl filled now
  | error failure =>
    rw [evaluate_error evaluated, Record.ofOutcome, announcement_failed]
    exact ⟨_, (List.append_nil _).symm, chatter_noted _ _, written_single rfl⟩

theorem answerTranscript_tells (discreet : assistant.Discreet quiet)
    (heard : assistant.transcript = .text transcript)
    (plain : Template.OnlyResult assistant.preferences.template) {expression : String}
    (understood : normalized assistant.transcript assistant.preferences.wholeWords = .ok expression) (now : Moment) :
    Tells quiet (assistant.answerTranscript now).events
      ((Record.ofOutcome transcript expression Message.calculationFailed
        (Evaluation.value expression.toList)).announcement assistant.preferences.template assistant.speaker) := by
  have traced : Aside quiet assistant.understand.events := by
    refine ⟨?_, written_understand assistant⟩
    unfold understand
    rw [understood]
    exact chatter_traced discreet _
  unfold answerTranscript
  refine tells_bind traced ?_
  rw [understand_understood understood]
  exact publish_tells discreet heard plain now Message.calculationFailed expression

end Assistant

end SpokenArithmetic
