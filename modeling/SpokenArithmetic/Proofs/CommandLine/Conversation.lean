import SpokenArithmetic.Proofs.Assistant.Announced
import SpokenArithmetic.Proofs.CommandLine.FaithfulLog

set_option autoImplicit false

namespace SpokenArithmetic

section Lining

inductive Lined : List Char -> List (List Char) -> Prop where
  | nil : Lined [] []
  | last {line : List Char} (present : line ≠ []) (unbroken : '\n' ∉ line) : Lined line [line]
  | line {line rest : List Char} {others : List (List Char)} (unbroken : '\n' ∉ line) (behind : Lined rest others) :
    Lined (line ++ '\n' :: rest) (line :: others)

theorem lined_lines (text : List Char) : Lined text (Speech.lines text) := by
  induction text with
  | nil => exact .nil
  | cons c rest ih =>
    by_cases feed : c = '\n'
    next =>
      subst feed
      exact @Lined.line [] _ _ List.not_mem_nil ih
    next =>
      have unbroken {line : List Char} (rest : '\n' ∉ line) : '\n' ∉ c :: line :=
        List.not_mem_cons_of_ne_of_not_mem (Ne.symm feed) rest
      rw [Speech.lines.eq_3 c rest feed]
      generalize Speech.lines rest = lines at ih
      cases ih with
      | nil => exact .last (List.cons_ne_nil _ _) (unbroken List.not_mem_nil)
      | last present whole => exact .last (List.cons_ne_nil _ _) (unbroken whole)
      | @line line rest others whole behind => exact @Lined.line (c :: line) _ _ (unbroken whole) behind

theorem lines_unbroken {line : List Char} (unbroken : '\n' ∉ line) (present : line ≠ []) :
    Speech.lines line = [line] := by
  induction line with
  | nil => exact absurd rfl present
  | cons c rest ih =>
    have feed : c ≠ '\n' := fun same => unbroken (same ▸ List.mem_cons_self)
    rw [Speech.lines]
    next =>
      by_cases last : rest = []
      next =>
        subst last
        rfl
      next => rw [ih (fun member => unbroken (List.mem_cons_of_mem _ member)) last]
    next => exact fun same => feed same

theorem lines_broken {line : List Char} (unbroken : '\n' ∉ line) (rest : List Char) :
    Speech.lines (line ++ '\n' :: rest) = line :: Speech.lines rest := by
  induction line with
  | nil => rfl
  | cons c line ih =>
    have feed : c ≠ '\n' := fun same => unbroken (same ▸ List.mem_cons_self)
    rw [List.cons_append, Speech.lines]
    next => rw [ih fun member => unbroken (List.mem_cons_of_mem _ member)]
    next => exact fun same => feed same

theorem Lined.lines_eq {text : List Char} {lines : List (List Char)} (lined : Lined text lines) :
    Speech.lines text = lines := by
  induction lined with
  | nil => rfl
  | last present unbroken => exact lines_unbroken unbroken present
  | line unbroken behind ih => rw [lines_broken unbroken, ih]

end Lining

section Telling

variable {quiet : Prop} {events more shown last : List Event}

/-- Events that are the shown ones and, before and among them, asides. -/
inductive Amid (quiet : Prop) : List Event -> List Event -> Prop where
  | nil : Amid quiet [] []
  | shown (event : Event) {events shown : List Event} (rest : Amid quiet events shown) :
    Amid quiet (event :: events) (event :: shown)
  | aside {event : Event} {events shown : List Event} (aside : Aside quiet [event]) (rest : Amid quiet events shown) :
    Amid quiet (event :: events) shown

theorem amid_self (events : List Event) : Amid quiet events events := by
  induction events with
  | nil => exact .nil
  | cons event rest ih => exact .shown event ih

theorem Amid.append (front : Amid quiet events shown) (back : Amid quiet more last) :
    Amid quiet (events ++ more) (shown ++ last) := by
  induction front with
  | nil => exact back
  | shown event rest ih => exact .shown event ih
  | aside aside rest ih => exact .aside aside ih

theorem Aside.amid (asides : Aside quiet events) : Amid quiet events [] := by
  induction events with
  | nil => exact .nil
  | cons event rest ih =>
    refine .aside ⟨fun other member => ?_, fun other member => ?_⟩ (ih ⟨fun other member => ?_, fun other member => ?_⟩)
    next => exact asides.chatter other (List.mem_singleton.1 member ▸ List.mem_cons_self)
    next => exact asides.written other (List.mem_singleton.1 member ▸ List.mem_cons_self)
    next => exact asides.chatter other (List.mem_cons_of_mem _ member)
    next => exact asides.written other (List.mem_cons_of_mem _ member)

theorem Tells.amid (tells : Tells quiet events shown) : Amid quiet events shown := by
  obtain ⟨asides, rfl, aside⟩ := tells
  exact aside.amid.append (amid_self shown)

theorem Amid.errorOutput (amid : Amid quiet events shown) : errorOutputOf events = errorOutputOf shown := by
  induction amid with
  | nil => rfl
  | @shown event events shown rest ih =>
    rw [← List.singleton_append, ← List.singleton_append (l := shown), errorOutputOf_append, ih, errorOutputOf_append]
  | @aside event events shown aside rest ih =>
    rw [← List.singleton_append, errorOutputOf_append, chatter_errorOutput aside.chatter, ih, String.empty_append]

theorem Amid.output (amid : Amid quiet events shown) (silent : quiet) : outputOf events = outputOf shown := by
  induction amid with
  | nil => rfl
  | @shown event events shown rest ih =>
    rw [← List.singleton_append, ← List.singleton_append (l := shown), outputOf_append, ih, outputOf_append]
  | @aside event events shown aside rest ih =>
    rw [← List.singleton_append, outputOf_append, chatter_output aside.chatter silent, ih, String.empty_append]

def Event.said? : Event -> Option String
  | spoken text => some text
  | posted _ text _ => some text
  | _ => none

theorem said?_written (event : Event) (written : event.isWritten = true) : event.said? = none := by
  cases event with
  | printed | logged => rfl
  | spoken | complained | posted => cases written

theorem Amid.said (amid : Amid quiet events shown) :
    events.filterMap Event.said? = shown.filterMap Event.said? := by
  induction amid with
  | nil => rfl
  | shown event rest ih => rw [List.filterMap_cons, ih, ← List.filterMap_cons]
  | @aside event events shown aside rest ih =>
    rw [← List.singleton_append, List.filterMap_append, aside.written.unheard said?_written, ih, List.nil_append]

end Telling

section Sinks

open Speech (Sink)

theorem said_speak (reply : Speech.Reply) (sink : Sink) (sentence : String) :
    (sink.speak reply sentence).events.filterMap Event.said? = if sink.isSupported then [sentence] else [] := by
  cases sink with
  | console | silent => rfl
  | server address timeout trace =>
    have warned := (Speech.written_reply (address.getD "None") timeout reply).unheard said?_written
    simp only [Sink.speak, Told.events_bind, Told.events_tell, Told.events_pure, List.filterMap_append, warned]
    rw [(written_if (written_single rfl)).unheard said?_written]
    rfl

theorem errorOutput_speak (reply : Speech.Reply) (sink : Sink) (sentence : String) :
    errorOutputOf (sink.speak reply sentence).events = "" := by
  have warned (server : String) (timeout : Seconds) : errorOutputOf (reply.events server timeout) = "" := by
    cases reply with
    | status code =>
      unfold Speech.Reply.events
      dsimp only
      split <;> rfl
    | unreachable | late | failed => rfl
  cases sink with
  | console | silent => rfl
  | server address timeout trace =>
    simp only [Sink.speak, Told.events_bind, Told.events_tell, Told.events_pure, errorOutputOf_append, warned]
    split <;> rfl

theorem said_announcement (template : String) (reply : Speech.Reply) (sink : Option Sink) (record : Record) :
    (record.announcement template (sink.map (Sink.speaker reply))).filterMap Event.said? =
      if sink.any Sink.isSupported then (record.spoken? template).toList else [] := by
  unfold Record.announcement
  cases sink with
  | none => rfl
  | some sink =>
    cases record.spoken? template with
    | none => cases sink.isSupported <;> simp
    | some sentence => exact said_speak reply sink sentence

theorem errorOutput_announcement (template : String) (reply : Speech.Reply) (sink : Option Sink) (record : Record) :
    errorOutputOf (record.announcement template (sink.map (Sink.speaker reply))) = "" := by
  unfold Record.announcement
  cases sink with
  | none => rfl
  | some sink =>
    cases record.spoken? template with
    | none => rfl
    | some sentence => exact errorOutput_speak reply sink sentence

end Sinks

namespace CommandLine

open Speech (Sink Utterance promptEvents standardPrompt)

section Exchanging

def goesOn : Utterance -> Bool
  | .phrase phrase => !isQuit phrase
  | .silence => true

def phrase? : Utterance -> Option String
  | .phrase phrase => some phrase
  | .silence => none

def heard (lines : List (List Char)) : List Utterance :=
  (lines.map Utterance.ofLine).takeWhile goesOn

def exchange (surroundings : Surroundings) (equipment : Equipment) (history : Option History) :
    Utterance -> Told (Option History)
  | .silence => do
    Told.tell (promptEvents standardPrompt)
    Told.tell [.line (Speech.describe Speech.noSpeech)]
    return history
  | .phrase phrase => do
    Told.tell (promptEvents standardPrompt)
    let (_, history) <- employ surroundings equipment phrase history
      (Assistant.answerTranscript surroundings.now)
    return history

def recordOf (wholeWords : Bool) (phrase : String) : Record :=
  let expression := String.ofList (Phrase.expression wholeWords phrase.toList)
  .ofOutcome phrase expression Message.calculationFailed (Evaluation.value expression.toList)

def shownFor (preferences : Preferences) (speaker : Option Speech.Speaker) (utterance : Utterance) : List Event :=
  promptEvents standardPrompt ++
    match utterance with
    | .silence => [.line "No speech detected. Please try again."]
    | .phrase phrase =>
      let record := recordOf preferences.wholeWords phrase
      record.announcement preferences.template speaker ++
        if record.succeeded then [.line (record.expression ++ " = " ++ record.result)]
        else [.complaint Message.calculationFailed]

variable {surroundings : Surroundings} {equipment : Equipment} {preferences : Preferences} {phrase : String}

structure Calm (manager : Settings.Manager) (preferences : Preferences) (history : Option History) : Prop where
  quiet : Quiet manager preferences
  untraced : forall kept, history = some kept -> kept.trace = false

theorem written_ofSettings (manager : Settings.Manager) (trace : Bool) :
    Written (Preferences.ofSettings manager trace false).run.events := by
  have flag (key : String) (missing : Bool) : Written (Preferences.flag manager key missing).run.events := by
    unfold Preferences.flag
    exact written_run_bind (Settings.Manager.written_get manager key _ _ _) fun value => by
      split <;> exact written_nil
  have orFlag (set : Bool) (key : String) : Written (Preferences.orFlag set manager key).run.events := by
    unfold Preferences.orFlag
    split
    next => exact written_nil
    next => exact flag key false
  have template : Written (Preferences.templateSetting manager).run.events := by
    unfold Preferences.templateSetting
    exact written_run_bind (Settings.Manager.written_get manager _ _ _ _) fun value => by
      split <;> exact written_nil
  unfold Preferences.ofSettings
  refine written_run_bind (flag _ _) fun _ => written_run_bind (flag _ _) fun _ => ?_
  refine written_run_bind template fun _ => written_run_bind (orFlag _ _) fun _ => ?_
  exact written_run_bind (orFlag _ _) fun _ => written_nil

def employee (phrase : String) (preferences : Preferences) (keeper : Option Keeper)
    (speaker : Option Speech.Speaker) : Assistant :=
  { transcript := .text phrase, preferences, keeper, speaker }

theorem hire_settled (phrase : String) (manager : Settings.Manager) (trace : Bool)
    (settled : (Preferences.ofSettings manager trace false).run.result = .ok preferences)
    (keeper : Option Keeper) (speaker : Option Speech.Speaker) :
    let hired := (Assistant.hire (.text phrase) (some manager) keeper speaker trace false).run
    hired.result = .ok (employee phrase preferences keeper speaker) ∧
      Aside (Quiet manager preferences) hired.events := by
  dsimp only
  unfold Assistant.hire
  refine ⟨?_, ?_, ?_⟩
  next =>
    dsimp only
    rw [run_bind_ok settled]
    rfl
  next =>
    refine chatter_run_bind (chatter_ofSettings trace) fun made given => ?_
    cases settled.symm.trans given
    refine chatter_run_bind (chatter_tell ?_) fun _ _ => chatter_pure _
    exact chatter_line _ fun quiet => by simp [quiet.untraced]
  next =>
    refine written_run_bind (written_ofSettings manager trace) fun made => ?_
    refine written_run_bind ?_ fun _ => written_nil
    exact written_append (Assistant.written_traced _ _) written_nil

section Answering

variable {quiet : Prop} {history : Option History}

theorem answer_heard (unstopped : Phrase.overlong? preferences.wholeWords phrase.toList = none) :
    Phrase.normalize phrase preferences.wholeWords =
      .ok (String.ofList (Phrase.expression preferences.wholeWords phrase.toList)) := by
  unfold Phrase.normalize
  rw [unstopped]

theorem employee_discreet {manager : Settings.Manager} (calm : quiet -> Calm manager preferences history)
    (speaker : Option Speech.Speaker) :
    (employee phrase preferences (history.map Keeper.history) speaker).Discreet quiet := by
  refine ⟨fun silent => (calm silent).quiet.untraced, fun keeper kept => ?_⟩
  obtain ⟨history, present, rfl⟩ := Option.map_eq_some_iff.1 kept
  exact ⟨history, rfl, fun silent => (calm silent).untraced history present⟩

theorem answers_heard {assistant : Assistant} (heard : assistant.transcript = .text phrase)
    (keeper : assistant.keeper = history.map Keeper.history)
    (plain : Template.OnlyResult assistant.preferences.template)
    (unstopped : Phrase.overlong? assistant.preferences.wholeWords phrase.toList = none)
    (discreet : assistant.Discreet quiet) (now : Moment) :
    let record := recordOf assistant.preferences.wholeWords phrase
    let answered := assistant.answerTranscript now
    answered.result = (.ok record, answered.result.2) ∧
      returned answered.result.2 = history.map (History.noted assistant.preferences.savesAnswers now record) ∧
      Tells quiet answered.events (record.announcement assistant.preferences.template assistant.speaker) := by
  have understood := (Assistant.normalized_heard heard).trans (answer_heard unstopped)
  have tells := Assistant.answerTranscript_tells discreet heard plain understood now
  obtain ⟨given, noted⟩ := Assistant.publish_noted history heard keeper plain now Message.calculationFailed
    (String.ofList (Phrase.expression assistant.preferences.wholeWords phrase.toList))
  rw [← Assistant.answerTranscript_understood now understood] at given noted
  refine ⟨?_, ?_, tells⟩
  next => exact Prod.ext given (Eq.refl _)
  next =>
    rw [returned, noted]
    cases history <;> rfl

theorem employ_answers (surroundings : Surroundings) (equipment : Equipment)
    (settled : (Preferences.ofSettings equipment.manager equipment.trace false).run.result = .ok preferences)
    (plain : Template.OnlyResult preferences.template)
    (unstopped : Phrase.overlong? preferences.wholeWords phrase.toList = none)
    (calm : quiet -> Calm equipment.manager preferences history) :
    let record := recordOf preferences.wholeWords phrase
    let speaker := equipment.sink.map (Sink.speaker surroundings.reply)
    let employed :=
      employ surroundings equipment phrase history (Assistant.answerTranscript surroundings.now)
    employed.result =
        (.ok record, history.map (History.noted preferences.savesAnswers surroundings.now record)) ∧
      Tells quiet employed.events (record.announcement preferences.template speaker ++ recordEvents record) := by
  intro record speaker employed
  obtain ⟨hires, hiring⟩ := hire_settled phrase equipment.manager equipment.trace settled
    (history.map Keeper.history) speaker
  let hired := employee phrase preferences (history.map Keeper.history) speaker
  have heard : hired.transcript = .text phrase := Eq.refl _
  have keeper : hired.keeper = history.map Keeper.history := Eq.refl _
  obtain ⟨answered, keeps, before, told, aside⟩ := answers_heard heard keeper plain unstopped
    (employee_discreet calm speaker) surroundings.now
  have asides : Aside quiet (Assistant.hire (.text phrase) (some equipment.manager) (history.map Keeper.history)
      speaker equipment.trace false).run.events :=
    ⟨fun event member => ⟨(hiring.chatter event member).1, (hiring.chatter event member).2.1,
      fun silent => (hiring.chatter event member).2.2 (calm silent).quiet⟩, hiring.written⟩
  unfold employed employ
  dsimp only
  constructor
  next =>
    rw [Told.result_bind, hires]
    dsimp only
    rw [Told.result_bind, answered]
    exact congrArg (Prod.mk _) keeps
  next =>
    refine tells_bind asides ?_
    rw [hires]
    refine ⟨before, ?_, aside⟩
    dsimp only
    rw [Told.events_bind, told, answered]
    dsimp only
    rw [Told.events_bind, Told.events_tell, Told.events_pure, List.append_nil, List.append_assoc]
    rfl

end Answering

section Conversing

variable {quiet : Prop} {history : Option History} {utterances : List Utterance}

def Convertible (wholeWords : Bool) (utterances : List Utterance) : Prop :=
  forall phrase, .phrase phrase ∈ utterances -> Phrase.overlong? wholeWords phrase.toList = none

def recordsOf (wholeWords : Bool) (utterances : List Utterance) : List Record :=
  (utterances.filterMap phrase?).map (recordOf wholeWords)

def notedAll (saves : Bool) (now : Moment) (records : List Record) (history : Option History) : Option History :=
  records.foldl (fun history record => history.map (History.noted saves now record)) history

theorem recordEvents_ofOutcome (transcript expression message : String)
    (outcome : Except (Failure Arithmetic.Refusal) Float) :
    let record := Record.ofOutcome transcript expression message outcome
    recordEvents record =
      if record.succeeded then [.line (record.expression ++ " = " ++ record.result)] else [.complaint message] := by
  cases outcome <;> rfl

theorem recordEvents_recordOf (wholeWords : Bool) (phrase : String) :
    let record := recordOf wholeWords phrase
    recordEvents record =
      if record.succeeded then [.line (record.expression ++ " = " ++ record.result)]
      else [.complaint Message.calculationFailed] := by
  unfold recordOf
  exact recordEvents_ofOutcome _ _ _ _

theorem trace_noted (saves : Bool) (now : Moment) (record : Record) (history : History) :
    (history.noted saves now record).trace = history.trace := by
  unfold History.noted History.noting
  split
  next => split <;> rfl
  next => rfl

theorem Calm.noted {manager : Settings.Manager} (calm : Calm manager preferences history) (saves : Bool) (now : Moment)
    (record : Record) : Calm manager preferences (history.map (History.noted saves now record)) := by
  refine ⟨calm.quiet, fun kept present => ?_⟩
  obtain ⟨before, given, rfl⟩ := Option.map_eq_some_iff.1 present
  exact (trace_noted saves now record before).trans (calm.untraced before given)

theorem exchange_phrase (surroundings : Surroundings) (equipment : Equipment)
    (settled : (Preferences.ofSettings equipment.manager equipment.trace false).run.result = .ok preferences)
    (plain : Template.OnlyResult preferences.template)
    (unstopped : Phrase.overlong? preferences.wholeWords phrase.toList = none)
    (calm : quiet -> Calm equipment.manager preferences history) :
    let exchanged := exchange surroundings equipment history (.phrase phrase)
    exchanged.result =
        history.map (History.noted preferences.savesAnswers surroundings.now (recordOf preferences.wholeWords phrase)) ∧
      Amid quiet exchanged.events
        (shownFor preferences (equipment.sink.map (Sink.speaker surroundings.reply)) (.phrase phrase)) := by
  obtain ⟨employed, tells⟩ := employ_answers surroundings equipment settled plain unstopped calm
  intro exchanged
  unfold exchanged exchange
  constructor
  next =>
    rw [Told.result_bind, Told.result_bind, employed]
    exact Told.result_pure _
  next =>
    rw [Told.events_bind, Told.events_bind, employed]
    refine (amid_self _).append ?_
    dsimp only
    rw [Told.events_pure, List.append_nil]
    rw [recordEvents_recordOf] at tells
    exact tells.amid

theorem exchanges_fold (surroundings : Surroundings) (equipment : Equipment)
    (settled : (Preferences.ofSettings equipment.manager equipment.trace false).run.result = .ok preferences)
    (plain : Template.OnlyResult preferences.template) (convertible : Convertible preferences.wholeWords utterances)
    (calm : quiet -> Calm equipment.manager preferences history) :
    let exchanged := utterances.foldlM (exchange surroundings equipment) history
    exchanged.result =
        notedAll preferences.savesAnswers surroundings.now (recordsOf preferences.wholeWords utterances) history ∧
      Amid quiet exchanged.events
        (utterances.flatMap (shownFor preferences (equipment.sink.map (Sink.speaker surroundings.reply)))) := by
  induction utterances generalizing history with
  | nil => exact ⟨rfl, .nil⟩
  | cons utterance rest ih =>
    have later : Convertible preferences.wholeWords rest :=
      fun phrase member => convertible phrase (List.mem_cons_of_mem _ member)
    intro exchanged
    unfold exchanged
    rw [List.foldlM_cons, List.flatMap_cons]
    cases utterance with
    | silence =>
      obtain ⟨result, amid⟩ := ih later calm
      exact ⟨result, (amid_self _).append amid⟩
    | phrase phrase =>
      obtain ⟨exchanged, shown⟩ := exchange_phrase surroundings equipment settled plain
        (convertible phrase List.mem_cons_self) calm
      obtain ⟨result, amid⟩ := ih later fun silent => (calm silent).noted preferences.savesAnswers surroundings.now
        (recordOf preferences.wholeWords phrase)
      rw [Told.result_bind, Told.events_bind, exchanged]
      exact ⟨result, shown.append amid⟩

theorem told_assoc {A B C : Type} (told : Told A) (next : A -> Told B) (last : B -> Told C) :
    told >>= next >>= last = told >>= fun a => next a >>= last :=
  congrArg (Told.mk _) (List.append_assoc ..)

theorem converse_folds (surroundings : Surroundings) (equipment : Equipment) (utterances : List Utterance)
    (answered : forall phrase, .phrase phrase ∈ utterances.takeWhile goesOn ->
      forall history : Option History, exists record,
        (employ surroundings equipment phrase history
          (Assistant.answerTranscript surroundings.now)).result.1 = .ok record) (history : Option History) :
    converse surroundings equipment utterances history = do
      let history <- (utterances.takeWhile goesOn).foldlM (exchange surroundings equipment) history
      Told.tell (promptEvents standardPrompt)
      return (.ok (), history) := by
  induction utterances generalizing history with
  | nil => rfl
  | cons utterance rest ih =>
    cases utterance with
    | silence =>
      rw [List.takeWhile_cons_of_pos rfl] at answered ⊢
      rw [List.foldlM_cons, told_assoc, converse, ih fun phrase member => answered phrase (.tail _ member)]
      rfl
    | phrase phrase =>
      by_cases quits : isQuit phrase = true
      next =>
        rw [List.takeWhile_cons_of_neg (by simp [goesOn, quits]), converse, if_pos quits]
        rfl
      next =>
        have goes : goesOn (.phrase phrase) = true := by simpa [goesOn] using quits
        rw [List.takeWhile_cons_of_pos goes] at answered ⊢
        obtain ⟨record, given⟩ := answered phrase List.mem_cons_self history
        have later := ih fun phrase member => answered phrase (.tail _ member)
        rw [List.foldlM_cons, told_assoc, converse, if_neg quits, exchange]
        generalize employ surroundings equipment phrase history
          (Assistant.answerTranscript surroundings.now) = employed at given
        obtain ⟨⟨outcome, kept⟩, events⟩ := employed
        cases given
        rw [told_assoc, told_assoc]
        exact congrArg (fun rest => Told.tell (promptEvents standardPrompt) >>= fun _ =>
          Told.mk (Except.ok record, kept) events >>= fun _ => rest) (later kept)

theorem said_shown (preferences : Preferences) (reply : Speech.Reply) (sink : Option Sink)
    (utterances : List Utterance) :
    (utterances.flatMap (shownFor preferences (sink.map (Sink.speaker reply)))).filterMap Event.said? =
      if sink.any Sink.isSupported then
        (recordsOf preferences.wholeWords utterances).filterMap (Record.spoken? preferences.template)
      else [] := by
  induction utterances with
  | nil => cases sink.any Sink.isSupported <;> rfl
  | cons utterance rest ih =>
    rw [List.flatMap_cons, List.filterMap_append, ih]
    cases utterance with
    | silence => rfl
    | phrase phrase =>
      have printed (record : Record) : (if record.succeeded then [.line (record.expression ++ " = " ++ record.result)]
          else [Event.complaint Message.calculationFailed]).filterMap Event.said? = [] := by
        split <;> rfl
      have first : (shownFor preferences (sink.map (Sink.speaker reply)) (.phrase phrase)).filterMap Event.said? =
          if sink.any Sink.isSupported then
            ((recordOf preferences.wholeWords phrase).spoken? preferences.template).toList
          else [] := by
        unfold shownFor
        dsimp only
        rw [List.filterMap_append, List.filterMap_append, said_announcement, printed, List.append_nil]
        rfl
      rw [first]
      by_cases audible : sink.any Sink.isSupported = true
      next =>
        rw [if_pos audible, if_pos audible, if_pos audible]
        show _ = List.filterMap _ (recordOf preferences.wholeWords phrase :: recordsOf preferences.wholeWords rest)
        rw [List.filterMap_eq_flatMap_toList, List.filterMap_eq_flatMap_toList, List.flatMap_cons]
      next => rw [if_neg audible, if_neg audible, if_neg audible, List.nil_append]

theorem errorOutput_shown (preferences : Preferences) (reply : Speech.Reply) (sink : Option Sink)
    (utterances : List Utterance) :
    errorOutputOf (utterances.flatMap (shownFor preferences (sink.map (Sink.speaker reply)))) =
      String.join (((recordsOf preferences.wholeWords utterances).filter fun record => !record.succeeded).map fun _ =>
        Message.calculationFailed ++ "\n") := by
  induction utterances with
  | nil => rfl
  | cons utterance rest ih =>
    rw [List.flatMap_cons, errorOutputOf_append, ih]
    cases utterance with
    | silence => exact String.empty_append
    | phrase phrase =>
      show _ = String.join (List.map _ (List.filter _
        (recordOf preferences.wholeWords phrase :: recordsOf preferences.wholeWords rest)))
      unfold shownFor
      dsimp only
      rw [errorOutputOf_append, errorOutputOf_append, errorOutput_announcement, String.empty_append]
      by_cases succeeded : (recordOf preferences.wholeWords phrase).succeeded = true
      next =>
        rw [if_pos succeeded, List.filter_cons_of_neg (by simp [succeeded])]
        exact String.empty_append
      next =>
        rw [if_neg succeeded, List.filter_cons_of_pos (by simpa using succeeded), List.map_cons, String.join_cons]
        rfl

theorem noted_continues (saves : Bool) (now : Moment) (records : List Record) (kept : History) :
    exists next, notedAll saves now records (some kept) = some next ∧
      kept.table.Continues next.table (if saves then records.filter Record.succeeded else []) := by
  induction records generalizing kept with
  | nil => exact ⟨kept, rfl, by cases saves <;> exact .refl kept.table⟩
  | cons record rest ih =>
    obtain ⟨next, noted, continued⟩ := ih (kept.noted saves now record)
    refine ⟨next, noted, ?_⟩
    cases saves with
    | false => exact continued
    | true =>
      by_cases succeeded : record.succeeded = true
      next =>
        have saved : kept.table.Continues (kept.noted true now record).table [record] := by
          rw [History.noted, if_pos rfl, History.noting, if_pos succeeded]
          exact History.continues_save now record kept
        rw [if_pos rfl, List.filter_cons_of_pos succeeded]
        exact saved.trans continued
      next =>
        have unsaved : kept.noted true now record = kept := by
          rw [History.noted, if_pos rfl, History.noting, if_neg succeeded]
        rw [unsaved] at continued
        rw [if_pos rfl, List.filter_cons_of_neg succeeded]
        exact continued

/-- A conversation about some utterances: they are answered one by one, and their records are shown, saved and spoken,
in order and each once. The command that holds it ends with zero. -/
structure Converses (surroundings : Surroundings) (equipment : Equipment) (preferences : Preferences)
    (history : Option History) (utterances : List Utterance) (told : Told (Except Fault Unit × Option History)) :
    Prop where
  ends : told.result.1 = .ok ()
  exit : forall asked phrase, asked.clearHistory = false -> asked.history = none -> asked.interactive = true ->
    (chooseSink asked equipment.manager equipment.trace).run.result = .ok equipment.sink ->
    (obey surroundings equipment.manager asked equipment.trace phrase history).result.1 = .ok 0
  folds : told = do
    Told.tell [.line "Speak your calculation. Type 'quit' to leave."]
    let history <- utterances.foldlM (exchange surroundings equipment) history
    Told.tell (promptEvents standardPrompt)
    return (.ok (), history)
  answers : forall phrase, .phrase phrase ∈ utterances -> forall history : Option History,
    (employ surroundings equipment phrase history (Assistant.answerTranscript surroundings.now)).result.1 =
      .ok (recordOf preferences.wholeWords phrase)
  shows : Amid (Calm equipment.manager preferences history) told.events
    (.line "Speak your calculation. Type 'quit' to leave." ::
      (utterances.flatMap (shownFor preferences (equipment.sink.map (Sink.speaker surroundings.reply))) ++
        promptEvents standardPrompt))
  errorOutput : errorOutputOf told.events =
    String.join (((recordsOf preferences.wholeWords utterances).filter fun record => !record.succeeded).map fun _ =>
      Message.calculationFailed ++ "\n")
  spoken : told.events.filterMap Event.said? =
    if equipment.sink.any Sink.isSupported then
      (recordsOf preferences.wholeWords utterances).filterMap (Record.spoken? preferences.template)
    else []
  saved : forall kept, history = some kept -> exists next, told.result.2 = some next ∧
    kept.table.Continues next.table
      (if preferences.savesAnswers then (recordsOf preferences.wholeWords utterances).filter Record.succeeded else [])
  unkept : history = none -> told.result.2 = none

theorem obey_interacts {asked : Asked} (surroundings : Surroundings) (equipment : Equipment) (phrase : String)
    (history : Option History) (keeps : asked.clearHistory = false) (unlisted : asked.history = none)
    (interactive : asked.interactive = true)
    (chosen : (chooseSink asked equipment.manager equipment.trace).run.result = .ok equipment.sink) :
    (obey surroundings equipment.manager asked equipment.trace phrase history).result.1 =
      (interact surroundings equipment history).result.1.map fun _ => 0 := by
  unfold obey
  rw [keeps, unlisted, if_neg (by simp), Told.result_bind, chosen]
  dsimp only
  rw [if_pos interactive]
  rfl

/-- The lines of an input before the first word for leaving, or all of them, are the conversation. -/
theorem interact_converses (surroundings : Surroundings) (equipment : Equipment)
    (settled : (Preferences.ofSettings equipment.manager equipment.trace false).run.result = .ok preferences)
    (plain : Template.OnlyResult preferences.template) (history : Option History) :
    (exists lines, Lined surroundings.input.toList lines) ∧
      forall lines, Lined surroundings.input.toList lines -> Convertible preferences.wholeWords (heard lines) ->
        Converses surroundings equipment preferences history (heard lines)
          (interact surroundings equipment history) := by
  refine ⟨⟨_, lined_lines _⟩, fun lines lined convertible => ?_⟩
  have answers : forall phrase, .phrase phrase ∈ heard lines -> forall history : Option History,
      (employ surroundings equipment phrase history (Assistant.answerTranscript surroundings.now)).result.1 =
        .ok (recordOf preferences.wholeWords phrase) := fun phrase member history =>
    congrArg Prod.fst (employ_answers surroundings equipment settled plain (convertible phrase member)
      False.elim).1
  have folds : interact surroundings equipment history = do
      Told.tell [.line "Speak your calculation. Type 'quit' to leave."]
      let history <- (heard lines).foldlM (exchange surroundings equipment) history
      Told.tell (promptEvents standardPrompt)
      return (.ok (), history) := by
    unfold interact Speech.utterances
    rw [lined.lines_eq, converse_folds _ _ _ fun phrase member history => ⟨_, answers phrase member history⟩]
    rfl
  obtain ⟨noted, amid⟩ := exchanges_fold surroundings equipment settled plain convertible
    fun calm : Calm equipment.manager preferences history => calm
  have shows : Amid (Calm equipment.manager preferences history) (interact surroundings equipment history).events
      (.line "Speak your calculation. Type 'quit' to leave." ::
        ((heard lines).flatMap (shownFor preferences (equipment.sink.map (Sink.speaker surroundings.reply))) ++
          promptEvents standardPrompt)) := by
    rw [folds]
    exact .shown _ (amid.append (amid_self _))
  have leaves : (interact surroundings equipment history).result =
      (.ok (), notedAll preferences.savesAnswers surroundings.now (recordsOf preferences.wholeWords (heard lines))
        history) := by
    rw [folds, ← noted]
    rfl
  refine ⟨congrArg Prod.fst leaves, fun asked phrase keeps unlisted interactive chosen => ?_, folds, answers, shows,
    ?_, ?_, fun kept present => ?_, fun absent => ?_⟩
  next => rw [obey_interacts surroundings equipment phrase history keeps unlisted interactive chosen, leaves]; rfl
  next =>
    rw [shows.errorOutput, ← List.singleton_append, errorOutputOf_append, errorOutputOf_append, errorOutput_shown]
    exact String.empty_append.trans String.append_empty
  next =>
    rw [shows.said, List.filterMap_cons, List.filterMap_append, said_shown]
    exact List.append_nil _
  next =>
    rw [leaves, present]
    exact noted_continues preferences.savesAnswers surroundings.now _ kept
  next =>
    rw [leaves, absent]
    generalize recordsOf preferences.wholeWords (heard lines) = records
    induction records with
    | nil => rfl
    | cons record rest ih => exact ih

def chat : Surroundings :=
  ⟨kitchen, .unreachable, History.noon, "2 plus 2\n \noops\n Quit\n3 plus 3"⟩

def chatted : List Utterance :=
  [.phrase "2 plus 2", .silence, .phrase "oops"]

theorem interact_converses_kitchen : exists manager, Quiet manager kitchenPreferences ∧
    let told := interact chat ⟨manager, some .console, false⟩ (some Assistant.notebook)
    told.result.1 = .ok () ∧
      outputOf told.events = "Speak your calculation. Type 'quit' to leave.\n🎤 🔊 4\n2+2 = 4\n" ++
        "🎤 No speech detected. Please try again.\n🎤 🎤 " ∧
      errorOutputOf told.events = "Could not calculate. Please try again.\n" ∧
      exists next, told.result.2 = some next ∧
        Table.empty.Continues next.table [.answered "2 plus 2" "2+2" 4.0] := by
  obtain ⟨manager, configured, quiet⟩ := kitchen_configured
  have lines : heard (Speech.lines chat.input.toList) = chatted := by decide +kernel
  have convertible : Convertible kitchenPreferences.wholeWords chatted := by
    intro phrase member
    simp only [chatted, List.mem_cons, List.not_mem_nil, or_false, reduceCtorEq, false_or] at member
    rcases member with same | same
    next => cases same; decide +kernel
    next => cases same; decide +kernel
  have answered : recordOf true "2 plus 2" = .answered "2 plus 2" "2+2" 4.0 := by decide +kernel
  have failed : recordOf true "oops" = .failed "oops" "oops" Message.calculationFailed .malformed := by decide +kernel
  have records : recordsOf kitchenPreferences.wholeWords chatted =
      [.answered "2 plus 2" "2+2" 4.0, .failed "oops" "oops" Message.calculationFailed .malformed] := by
    rw [← answered, ← failed]
    rfl
  have converses := (interact_converses chat ⟨manager, some .console, false⟩ configured.preferences_eq
    configured.plain (some Assistant.notebook)).2 _ (lined_lines _)
  rw [lines] at converses
  obtain ⟨ends, exit, folds, answers, shows, errorOutput, spoken, saved, unkept⟩ := converses convertible
  refine ⟨manager, quiet, ends, ?_, ?_, ?_⟩
  next =>
    have written : outputOf (.line "Speak your calculation. Type 'quit' to leave." ::
        (chatted.flatMap (shownFor kitchenPreferences (some (Sink.console.speaker .unreachable))) ++
          promptEvents standardPrompt)) = "Speak your calculation. Type 'quit' to leave.\n🎤 🔊 4\n2+2 = 4\n" ++
            "🎤 No speech detected. Please try again.\n🎤 🎤 " := by
      rw [chatted, List.flatMap_cons, List.flatMap_cons, List.flatMap_cons, shownFor, shownFor, shownFor]
      dsimp only [kitchenPreferences]
      rw [answered, failed]
      decide +kernel
    exact (shows.output ⟨quiet, fun kept same => by cases same; rfl⟩).trans written
  next => rw [errorOutput, records]; decide +kernel
  next =>
    obtain ⟨next, given, continued⟩ := saved _ rfl
    rw [records] at continued
    exact ⟨next, given, continued⟩

end Conversing

end Exchanging

end CommandLine

end SpokenArithmetic
