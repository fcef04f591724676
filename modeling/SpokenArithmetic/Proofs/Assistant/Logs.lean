import SpokenArithmetic.Proofs.Answer.Filled
import SpokenArithmetic.Proofs.Assistant.Session

set_option autoImplicit false

namespace SpokenArithmetic

section Entries

variable {first second third : Table} {front back : List Record}

def Entry.calculation (entry : Entry) : String × String × String :=
  (entry.transcript, entry.expression, entry.result)

def Record.calculation (record : Record) : String × String × String :=
  (record.transcript, record.expression, record.result)

def Table.Continues (first second : Table) (records : List Record) : Prop :=
  exists entries, second.entries = first.entries ++ entries ∧
    entries.map Entry.calculation = records.map Record.calculation

theorem Table.Continues.refl (table : Table) : table.Continues table [] :=
  ⟨[], (List.append_nil _).symm, rfl⟩

theorem Table.Continues.trans (earlier : first.Continues second front) (later : second.Continues third back) :
    first.Continues third (front ++ back) := by
  obtain ⟨entries, added, calculated⟩ := earlier
  obtain ⟨more, addedMore, calculatedMore⟩ := later
  refine ⟨entries ++ more, ?_, ?_⟩
  next => rw [addedMore, added, List.append_assoc]
  next => rw [List.map_append, List.map_append, calculated, calculatedMore]

theorem History.kept_text (text : String) : History.kept (.text text) = text := by
  by_cases blank : text = ""
  next =>
    rw [blank]
    rfl
  next =>
    have present : (Datum.text text).isPresent = true := by simp [Datum.isPresent, blank]
    rw [History.kept, if_pos present, Datum.shown]

theorem History.continues_save (now : Moment) (record : Record) (history : History) :
    history.table.Continues
      (history.save now (.text record.transcript) (.text record.expression) (.text record.result)).result.2.table
      [record] := by
  refine ⟨[⟨history.table.nextId, record.transcript, record.expression, record.result, now⟩], ?_, rfl⟩
  simp only [History.save, History.kept_text]
  rfl

end Entries

section Sinks

-- Says every text aloud before it takes it or not; any speaker is overheard through the one that takes what it takes.
def Speech.Speaker.loud (takes : String -> Bool) : Speech.Speaker :=
  ⟨fun text => ⟨takes text, [.spoken text]⟩⟩

theorem Speech.Speaker.overheard_loud (takes : String -> Bool) : (loud takes).Overheard Event.speech? where
  spoken _ := rfl
  written event written := by
    cases event with
    | printed | logged => rfl
    | spoken | complained | posted => cases written

theorem Speech.Sink.overheard_console (reply : Speech.Reply) :
    (Speech.Sink.console.speaker reply).Overheard Event.speech? :=
  Speaker.overheard_loud fun _ => true

theorem Speech.written_reply (server : String) (timeout : Seconds) (reply : Speech.Reply) :
    Written (reply.events server timeout) := by
  cases reply with
  | status code =>
    unfold Speech.Reply.events
    dsimp only
    split
    next => exact written_nil
    next => exact written_single rfl
  | unreachable | late | failed => exact written_single rfl

end Sinks

namespace Assistant

open Arithmetic (Refusal)

section Replies

def Reply.latest (known : Option Record) (reply : Reply) : Option Record :=
  reply.record?.or known

/-- The record that is spoken with a reply: the success of a calculation or, again, the latest record if it is a
success. -/
def Reply.announced? (known : Option Record) : Reply -> Option Record
  | spoken _ => known.filter Record.succeeded
  | reply => reply.success?

def announced : Option Record -> List Reply -> List Record
  | _, [] => []
  | known, reply :: rest => (reply.announced? known).toList ++ announced (reply.latest known) rest

end Replies

section Steps

variable {template : String} {speaker : Speech.Speaker} {kept : History} {assistant after : Assistant}
variable {now : Moment} {message expression : String} {outcome : Outcome Record} {said : Option String}

structure Equipped (template : String) (speaker : Speech.Speaker) (kept : History) (assistant : Assistant) :
    Prop where
  template : assistant.preferences.template = template
  saves : assistant.preferences.savesAnswers = true
  keeper : assistant.keeper = some (.history kept)
  speaker : assistant.speaker = some speaker

/-- What one reply adds to the history and to the sentences that are spoken. -/
structure Logged (template : String) (speaker : Speech.Speaker) (kept : History) (known : Option Record)
    (reply : Reply) (after : Assistant) (said : List String) : Prop where
  saved : exists next, after.Equipped template speaker next ∧
    kept.table.Continues next.table reply.success?.toList
  latest : after.record = reply.latest known
  said : said.map .ok = (reply.announced? known).toList.map fun record => Template.fill template record.result

theorem Equipped.framed {next : History} (equipped : assistant.Equipped template speaker kept)
    (framed : assistant.Framed after) (keeper : after.keeper = some (.history next)) :
    after.Equipped template speaker next where
  template := framed.preferences ▸ equipped.template
  saves := framed.preferences ▸ equipped.saves
  keeper := keeper
  speaker := framed.speaker ▸ equipped.speaker

theorem Equipped.save (equipped : assistant.Equipped template speaker kept) (now : Moment) (record : Record)
    (heard : assistant.transcript = .text record.transcript)
    (understood : assistant.expression = .text record.expression)
    (answered : assistant.answer = some record.result) :
    exists next : History, (assistant.save now).result = { assistant with keeper := some (.history next) } ∧
      kept.table.Continues next.table [record] := by
  refine ⟨_, ?_, History.continues_save now record kept⟩
  unfold Assistant.save
  rw [equipped.saves, equipped.keeper, heard, understood, answered]
  rfl

theorem Equipped.unlogged {known : Option Record} {reply : Reply} (equipped : after.Equipped template speaker kept)
    (failed : reply.success? = none) (latest : after.record = reply.latest known)
    (unannounced : reply.announced? known = none) : Logged template speaker kept known reply after [] := by
  refine ⟨⟨kept, equipped, ?_⟩, latest, ?_⟩
  next =>
    rw [failed]
    exact .refl kept.table
  next => rw [unannounced]; rfl

theorem Publishes.logged (published : assistant.Publishes now message expression outcome said)
    (equipped : assistant.Equipped template speaker kept) (plain : Template.OnlyResult template) :
    Logged template speaker kept assistant.record (.calculated outcome.1) outcome.2 said.toList := by
  have framed := published.framed
  cases published with
  | failed heard evaluated => exact (equipped.framed framed equipped.keeper).unlogged rfl rfl rfl
  | unfilled heard evaluated unfilled =>
    -- A template with nothing but the result can be filled.
    obtain ⟨sentence, filled⟩ := plain.fills (Number.display _)
    rw [equipped.template, filled] at unfilled
    cases unfilled
  | unheard unheard =>
    cases evaluated : Evaluation.value expression.toList with
    | ok | error =>
      rw [evaluated] at framed
      exact (equipped.framed framed equipped.keeper).unlogged rfl rfl rfl
  | @answered transcript sentence value heard evaluated filled =>
    have finished : Equipped template speaker kept
        { assistant.worked message expression (.ok value) with
          record := some (.answered transcript expression value), sentence := some sentence } :=
      ⟨equipped.template, equipped.saves, equipped.keeper, equipped.speaker⟩
    obtain ⟨next, saved, continued⟩ := finished.save now (.answered transcript expression value) heard rfl rfl
    rw [saved] at framed ⊢
    refine ⟨⟨next, equipped.framed framed rfl, continued⟩, rfl, ?_⟩
    rw [equipped.template] at filled
    exact congrArg (fun filled => [filled]) filled.symm

theorem Calculates.logged {demand : Demand} (calculated : assistant.Calculates now demand outcome said)
    (equipped : assistant.Equipped template speaker kept) (plain : Template.OnlyResult template) :
    Logged template speaker kept assistant.record (.calculated outcome.1) outcome.2 said.toList := by
  have framed := calculated.framed
  cases calculated with
  | overlong | unread | blank | blankUnheard =>
    exact (equipped.framed framed equipped.keeper).unlogged rfl rfl rfl
  | answered understood published => exact published.logged equipped plain
  | corrected read present published => exact published.logged equipped plain

theorem Calculates.overheard {demand : Demand} {told : Told (Outcome Record)} {overhear : Event -> Option String}
    (calculated : assistant.Calculates now demand told.result said)
    (spoken : forall speaker overhear, assistant.speaker = some speaker -> speaker.Overheard overhear ->
      told.events.filterMap overhear = said.toList)
    (equipped : assistant.Equipped template speaker kept) (plain : Template.OnlyResult template)
    (overheard : speaker.Overheard overhear) :
    Logged template speaker kept assistant.record (.calculated told.result.1) told.result.2
      (told.events.filterMap overhear) := by
  rw [spoken speaker overhear equipped.speaker overheard]
  exact calculated.logged equipped plain

theorem Equipped.said_speak {overhear : Event -> Option String}
    (equipped : assistant.Equipped template speaker kept) (plain : Template.OnlyResult template)
    (overheard : speaker.Overheard overhear) :
    (assistant.speak.events.filterMap overhear).map .ok =
      (assistant.record.filter Record.succeeded).toList.map fun record => Template.fill template record.result := by
  cases recorded : assistant.record with
  | none =>
    rw [speak, recorded]
    rfl
  | some record =>
    by_cases succeeded : record.succeeded = true
    next =>
      obtain ⟨sentence, filled⟩ := plain.fills record.result
      have said : record.sentence assistant.preferences.template = .ok sentence := by
        rw [Record.sentence, if_pos succeeded, equipped.template, filled]
      rw [overheard_speak equipped.speaker overheard recorded succeeded said, Option.filter_some_pos succeeded]
      exact congrArg (fun filled => [filled]) filled.symm
    next =>
      rw [speak, recorded, equipped.speaker, Option.filter_some_neg (Bool.eq_false_iff.2 succeeded)]
      dsimp only
      rw [if_neg succeeded]
      rfl

theorem perform_logged {overhear : Event -> Option String} (equipped : assistant.Equipped template speaker kept)
    (plain : Template.OnlyResult template) (overheard : speaker.Overheard overhear) (now : Moment)
    (demand : Demand) :
    let performed := assistant.perform now demand
    Logged template speaker kept assistant.record performed.result.1 performed.result.2
      (performed.events.filterMap overhear) := by
  intro performed
  cases demand with
  | hear transcript =>
    have heard : ({ assistant with transcript := .text transcript }).Equipped template speaker kept :=
      ⟨equipped.template, equipped.saves, equipped.keeper, equipped.speaker⟩
    exact heard.unlogged rfl rfl rfl
  | answer =>
    obtain ⟨said, calculated, spoken⟩ := answerTranscript_calculates now assistant
    simpa [performed, perform] using calculated.overheard spoken equipped plain overheard
  | correct edited =>
    obtain ⟨said, calculated, spoken⟩ := correct_calculates now edited assistant
    simpa [performed, perform] using calculated.overheard spoken equipped plain overheard
  | again =>
    refine ⟨⟨kept, equipped, .refl kept.table⟩, rfl, ?_⟩
    simpa [performed, perform, Reply.announced?] using equipped.said_speak plain overheard

end Steps

section Runs

variable {template : String} {speaker : Speech.Speaker} {overhear : Event -> Option String} {kept : History}
variable {assistant : Assistant}

/-- A session saves exactly its successes, in order and each once, and says exactly the records that its replies
announce, by the template. -/
theorem attend_logged (calls : List (Moment × Demand)) (equipped : assistant.Equipped template speaker kept)
    (plain : Template.OnlyResult template) (overheard : speaker.Overheard overhear) :
    let session := assistant.attend calls
    let replies := session.result.1.map Turn.reply
    (exists next, session.result.2.keeper = some (.history next) ∧
      kept.table.Continues next.table (replies.filterMap Reply.success?)) ∧
    (session.events.filterMap overhear).map .ok =
      (announced assistant.record replies).map fun record => Template.fill template record.result := by
  induction calls generalizing assistant kept with
  | nil => exact ⟨⟨kept, equipped.keeper, .refl kept.table⟩, rfl⟩
  | cons call rest ih =>
    obtain ⟨now, demand⟩ := call
    have logged := perform_logged equipped plain overheard now demand
    obtain ⟨next, continues, saved⟩ := logged.saved
    -- The rest of the session starts from the history that the first demand leaves and from its latest record.
    obtain ⟨⟨last, keeps, savedLater⟩, saidLater⟩ := ih continues
    obtain ⟨attended, told⟩ := attend_cons now demand rest assistant
    dsimp only
    rw [attended, told, List.map_cons, List.filterMap_append, List.map_append, logged.said, saidLater, announced,
      logged.latest, List.map_append]
    refine ⟨⟨last, keeps, ?_⟩, rfl⟩
    rw [List.filterMap_eq_flatMap_toList, List.flatMap_cons, ← List.filterMap_eq_flatMap_toList]
    exact saved.trans savedLater

def early : Moment := { year := 2000, month := 1, day := 1 }

def notebook : History := { address := "sqlite://", place := .memory, limit := .null, trace := false, table := .empty }

def clerk : Assistant :=
  { keeper := some (.history notebook), speaker := some (Speech.Sink.console.speaker .unreachable) }

def dictation : List (Moment × Demand) :=
  [.hear "2+2", .answer, .correct (.text " "), .again, .correct (.text "2+3"), .again].map ((early, ·))

theorem attend_logged_dictation :
    let session := clerk.attend dictation
    (exists next, session.result.2.keeper = some (.history next) ∧
      Table.empty.Continues next.table [.answered "2+2" "2+2" 4.0, .answered "2+2" "2+3" 5.0]) ∧
    (session.events.filterMap Event.speech?).map Except.ok =
      ["The answer is 4", "The answer is 5", "The answer is 5"].map (@Except.ok Template.Fault String) := by
  have equipped : clerk.Equipped Template.standard (Speech.Sink.console.speaker .unreachable) notebook :=
    ⟨rfl, rfl, rfl, rfl⟩
  have overheard := Speech.Sink.overheard_console .unreachable
  have logged := attend_logged dictation equipped Template.onlyResult_standard overheard
  have shown :
      let replies := (clerk.attend dictation).result.1.map Turn.reply
      (replies.filterMap Reply.success?, announced clerk.record replies) =
        ([.answered "2+2" "2+2" 4.0, .answered "2+2" "2+3" 5.0],
          [.answered "2+2" "2+2" 4.0, .answered "2+2" "2+3" 5.0, .answered "2+2" "2+3" 5.0]) := by decide +kernel
  obtain ⟨saved, spoken⟩ := Prod.mk.inj shown
  dsimp only at logged
  have four : (Record.answered "2+2" "2+2" 4.0).result = "4" := by decide +kernel
  have five : (Record.answered "2+2" "2+3" 5.0).result = "5" := by decide +kernel
  rw [saved, spoken, List.map_cons, List.map_cons, List.map_cons, four, five] at logged
  exact logged

end Runs

end Assistant

end SpokenArithmetic
