import SpokenArithmetic.Proofs.Assistant.Session

set_option autoImplicit false

namespace SpokenArithmetic

section Chatting

def Event.isWarning : Event -> Bool
  | logged .warning _ _ => true
  | _ => false

variable {quiet : Prop} {events more : List Event} {A B : Type}

/-- Events that leave nothing on the error output, and nothing on the other one when it is quiet. -/
def Chatter (quiet : Prop) (events : List Event) : Prop :=
  forall event, event ∈ events ->
    event.errorOutput = "" ∧ event.isWarning = false ∧ (quiet -> event.output = "")

theorem chatter_nil : Chatter quiet [] :=
  nofun

theorem Chatter.append (front : Chatter quiet events) (back : Chatter quiet more) :
    Chatter quiet (events ++ more) := by
  intro event member
  rcases List.mem_append.1 member with member | member
  next => exact front event member
  next => exact back event member

theorem chatter_noted (source : Source) (message : String) : Chatter quiet [.logged .info source message] := by
  intro event member
  rw [List.mem_singleton.1 member]
  exact ⟨rfl, rfl, fun _ => rfl⟩

theorem chatter_printed (loud : ¬quiet) (text : String) : Chatter quiet [.printed text] := by
  intro event member
  rw [List.mem_singleton.1 member]
  exact ⟨rfl, rfl, fun silent => absurd silent loud⟩

theorem chatter_if {condition : Prop} [Decidable condition] (told : ¬quiet -> Chatter quiet events)
    (unasked : quiet -> ¬condition) : Chatter quiet (if condition then events else []) := by
  by_cases asked : condition
  next =>
    rw [if_pos asked]
    exact told fun silent => unasked silent asked
  next =>
    rw [if_neg asked]
    exact chatter_nil

theorem chatter_line {condition : Prop} [Decidable condition] (text : String) (unasked : quiet -> ¬condition) :
    Chatter quiet (if condition then [.line text] else []) :=
  chatter_if (fun loud => chatter_printed loud _) unasked

theorem chatter_bind {told : Told A} {next : A -> Told B} (first : Chatter quiet told.events)
    (rest : Chatter quiet (next told.result).events) : Chatter quiet (told >>= next).events := by
  rw [Told.events_bind]
  exact first.append rest

end Chatting

namespace Assistant

variable {quiet : Prop} {assistant after : Assistant} {now : Moment}

structure Discreet (quiet : Prop) (assistant : Assistant) : Prop where
  untraced : quiet -> assistant.preferences.trace = false
  keeps : forall keeper, assistant.keeper = some keeper ->
    exists history, keeper = .history history ∧ (quiet -> history.trace = false)

structure Unheard (quiet : Prop) (assistant : Assistant) : Prop where
  untraced : quiet -> assistant.preferences.trace = false
  keeps : exists history, assistant.keeper = some (.history history) ∧ (quiet -> history.trace = false)
  alone : assistant.speaker = none

theorem Unheard.discreet (unheard : assistant.Unheard quiet) : assistant.Discreet quiet where
  untraced := unheard.untraced
  keeps keeper given := by
    obtain ⟨history, kept, untraced⟩ := unheard.keeps
    cases kept.symm.trans given
    exact ⟨history, rfl, untraced⟩

theorem Unheard.same (unheard : assistant.Unheard quiet) (preferences : after.preferences = assistant.preferences)
    (keeper : after.keeper = assistant.keeper) (speaker : after.speaker = assistant.speaker) :
    after.Unheard quiet :=
  ⟨preferences ▸ unheard.untraced, keeper ▸ unheard.keeps, speaker.trans unheard.alone⟩

theorem chatter_traced (discreet : assistant.Discreet quiet) (text : String) :
    Chatter quiet (Preferences.traced assistant.preferences (.line text)) :=
  chatter_line _ fun silent => by simp [discreet.untraced silent]

section Evaluating

theorem chatter_failureEvents (text : String) (failure : Failure Arithmetic.Refusal) :
    Chatter quiet (Evaluation.failureEvents text failure) := by
  unfold Evaluation.failureEvents
  split
  next => exact chatter_nil
  next => exact chatter_nil
  next => exact chatter_noted _ _
  next => exact chatter_noted _ _

theorem chatter_callEvents (loud : ¬quiet) (form : List Char) : Chatter quiet (Evaluation.callEvents form) := by
  unfold Evaluation.callEvents
  split
  next => exact chatter_nil
  next =>
    intro event member
    obtain ⟨call, _, rfl⟩ := List.mem_map.1 member
    exact chatter_printed loud _ _ (List.mem_singleton.2 rfl)

theorem chatter_traceEvents (loud : ¬quiet) (text : String) : Chatter quiet (Evaluation.traceEvents text) := by
  unfold Evaluation.traceEvents
  split
  next => exact chatter_nil
  next => exact Chatter.append (chatter_printed loud _) (chatter_callEvents loud _)

theorem chatter_evaluation (text : String) {trace : Bool} (untraced : quiet -> trace = false) :
    Chatter quiet (Evaluation.evaluate text trace).events := by
  unfold Evaluation.evaluate
  refine chatter_bind (chatter_if (fun loud => chatter_traceEvents loud text) fun silent => by
    simp [untraced silent]) ?_
  dsimp only
  split
  next => exact chatter_nil
  next => exact (chatter_failureEvents text _).append chatter_nil

theorem chatter_evaluate (discreet : assistant.Discreet quiet) : Chatter quiet assistant.evaluate.events := by
  unfold evaluate
  refine chatter_bind (chatter_evaluation assistant.expressionText discreet.untraced) ?_
  split
  next => exact chatter_nil
  next => exact (chatter_traced discreet _).append chatter_nil

end Evaluating

section Publishing

theorem chatter_format (discreet : assistant.Discreet quiet) : Chatter quiet assistant.format.events := by
  unfold format
  split
  next => exact chatter_nil
  next =>
    dsimp only
    split
    next => exact chatter_nil
    next =>
      split
      next => exact chatter_nil
      next => exact chatter_traced discreet _

theorem Unheard.format (unheard : assistant.Unheard quiet) : assistant.format.result.2.Unheard quiet := by
  unfold Assistant.format
  split
  next => exact unheard
  next =>
    dsimp only
    split
    next => exact unheard.same rfl rfl rfl
    next => split <;> exact unheard.same rfl rfl rfl

theorem chatter_save (now : Moment) (discreet : assistant.Discreet quiet) :
    Chatter quiet (assistant.save now).events := by
  unfold save
  split
  next keeper _ some =>
    obtain ⟨history, rfl, untraced⟩ := discreet.keeps keeper some
    refine chatter_bind ?_ chatter_nil
    unfold Keeper.save History.save
    exact chatter_bind (chatter_bind (chatter_line _ fun silent => by simp [untraced silent]) chatter_nil) chatter_nil
  next => exact chatter_nil

theorem speak_alone (alone : assistant.speaker = none) : assistant.speak = pure (.ok false) := by
  unfold speak
  rw [alone]
  cases assistant.record <;> rfl

theorem chatter_publishAnswer (now : Moment) (unheard : assistant.Unheard quiet) :
    Chatter quiet (assistant.publishAnswer now).events := by
  have formatted := unheard.format
  unfold publishAnswer
  refine chatter_bind (chatter_format unheard.discreet) ?_
  split
  next => exact chatter_nil
  next told same =>
    rw [same] at formatted
    obtain ⟨keeper, saved⟩ := save_keeps now told
    have alone : (told.save now).result.speaker = none := by rw [saved]; exact formatted.alone
    refine chatter_bind (chatter_save now formatted.discreet) ?_
    rw [speak_alone alone]
    refine chatter_bind chatter_nil ?_
    split <;> exact chatter_nil

theorem chatter_publish (now : Moment) (message expression : String) (unheard : assistant.Unheard quiet) :
    Chatter quiet (({ assistant with expression := .text expression }).publish now message).events := by
  have unheardText : ({ assistant with expression := .text expression } : Assistant).Unheard quiet :=
    unheard.same rfl rfl rfl
  unfold publish
  refine chatter_bind (chatter_evaluate unheardText.discreet) ?_
  cases evaluated : Evaluation.value expression.toList with
  | ok value =>
    rw [evaluate_ok evaluated]
    exact chatter_publishAnswer now (unheard.same rfl rfl rfl)
  | error failure =>
    rw [evaluate_error evaluated]
    exact chatter_noted _ _

end Publishing

section Calculating

theorem chatter_answerTranscript (now : Moment) (unheard : assistant.Unheard quiet) :
    Chatter quiet (assistant.answerTranscript now).events := by
  have understood : Chatter quiet assistant.understand.events := by
    unfold understand
    split
    next => exact chatter_nil
    next => exact chatter_traced unheard.discreet _
  unfold answerTranscript
  refine chatter_bind understood ?_
  cases normalized : normalized assistant.transcript assistant.preferences.wholeWords with
  | error overlong =>
    rw [understand_overlong normalized]
    exact chatter_nil
  | ok expression =>
    rw [understand_understood normalized]
    exact chatter_publish now Message.calculationFailed expression unheard

theorem chatter_correct (now : Moment) (edited : Datum) (unheard : assistant.Unheard quiet) :
    Chatter quiet (assistant.correct now edited).events := by
  cases read : correction edited with
  | error fault =>
    rw [correct, read]
    exact chatter_nil
  | ok expression =>
    by_cases blank : expression = ""
    next =>
      subst blank
      rw [correct, read]
      exact chatter_nil
    next =>
      rw [correct_present now read blank]
      exact chatter_publish now Message.invalidEdit expression unheard

end Calculating

end Assistant

end SpokenArithmetic
