import SpokenArithmetic.Proofs.CommandLine.Accepted
import SpokenArithmetic.Proofs.CommandLine.Listed

set_option autoImplicit false

/-!
One run of the command line: what it is asked for, what it shows and what it leaves in the log. It tends the history or
calculates an expression or a phrase.
-/

namespace SpokenArithmetic.CommandLine

variable {rows : List Row} {history : History} {standard : Int} {quiet : Prop} {parts : List String}
variable {environment : Environment} {manager : Settings.Manager} {preferences : Preferences}

section Employing

variable {transcript : String} {work : Assistant -> Told (Assistant.Outcome Record)}

def shown (outcome : Except Assistant.Fault Record) : List Event :=
  match outcome with
  | .ok record => recordEvents record
  | .error _ => []

theorem employ_works (surroundings : Surroundings)
    (configured : Configured environment manager parts standard preferences)
    {outcome : Except Assistant.Fault Record} {after : Assistant}
    (done : (work (hired transcript preferences history)).result = (outcome, after))
    (told : Chatter (Quiet manager preferences) (work (hired transcript preferences history)).events) :
    let employed :=
      employ surroundings { manager, sink := none, trace := preferences.trace } transcript (some history) work
    employed.result = (outcome.mapError .assistant, returned after) ∧
      Shows (Quiet manager preferences) employed.events (shown outcome) := by
  obtain ⟨hires, hiring⟩ := configured.hire transcript history
  unfold employ
  dsimp only [Option.map_none, Option.map_some]
  constructor
  next =>
    rw [Told.result_bind, hires]
    dsimp only
    rw [Told.result_bind, done]
    cases outcome <;> rfl
  next =>
    refine shows_bind hiring ?_
    rw [hires]
    refine shows_bind told ?_
    rw [done]
    cases outcome with
    | ok record => exact ⟨[], List.append_nil _, chatter_nil⟩
    | error fault => exact shows_self []

end Employing

section Calculating

/-- One run: its arguments and what they ask for, when it is made, what it finds, and whether it is made in a process
of its own. -/
structure Call where
  arguments : List String
  asked : Asked
  now : Moment
  reply : Speech.Reply
  input : String
  alone : Bool

namespace Call

variable {call : Call}

def phrase (call : Call) : String :=
  " ".intercalate call.asked.phrase

def transcript (call : Call) : String :=
  if call.phrase.isEmpty then call.asked.expression.getD "" else call.phrase

def tends (call : Call) : Bool :=
  call.asked.clearHistory || call.asked.history.isSome

/-- A run that tends the history or calculates, and is asked for nothing else. -/
structure Plain (call : Call) : Prop where
  read : read call.arguments = .ok (some call.asked)
  uninterpreted : call.asked.interpret = false
  scripted : call.asked.interactive = false
  unspoken : call.asked.speak = false
  untraced : call.asked.trace = false
  blockless : call.asked.block = none
  something : call.tends = true ∨ call.asked.expression.isSome = true ∨ call.phrase ≠ ""

inductive Usual : List String -> Asked -> Prop where
  | phrase {words : List String} (bare : forall word, word ∈ words -> Bare word)
      (spoken : " ".intercalate words ≠ "") :
    Usual words { phrase := words }
  | expression {words : List String} (bare : forall word, word ∈ words -> Bare word) (expression : String) :
    Usual (("--expression" ++ "=" ++ expression) :: words) { phrase := words, expression := some expression }
  | clear : Usual ["--clear-history"] { clearHistory := true }
  | list : Usual ["--history"] { history := some settingsLimit }
  | listSome {value : String} {count : Int} (number : Number.readInteger value.toList = .ok count) :
    Usual ["--history" ++ "=" ++ value] { history := some count }
  | clearAndList {value : String} {count : Int} (number : Number.readInteger value.toList = .ok count) :
    Usual ["--clear-history", "--history" ++ "=" ++ value] { history := some count, clearHistory := true }

theorem Usual.plain {arguments : List String} {asked : Asked} (usual : Usual arguments asked) (now : Moment)
    (reply : Speech.Reply) (input : String) (alone : Bool) :
    (Call.mk arguments asked now reply input alone).Plain := by
  cases usual with
  | phrase bare spoken => exact ⟨read_words bare, rfl, rfl, rfl, rfl, rfl, .inr (.inr spoken)⟩
  | expression bare expression => exact ⟨read_expression expression bare, rfl, rfl, rfl, rfl, rfl, .inr (.inl rfl)⟩
  | clear => exact ⟨read_clear, rfl, rfl, rfl, rfl, rfl, .inl rfl⟩
  | list => exact ⟨read_list, rfl, rfl, rfl, rfl, rfl, .inl rfl⟩
  | listSome number => exact ⟨read_listing number, rfl, rfl, rfl, rfl, rfl, .inl rfl⟩
  | clearAndList number => exact ⟨read_clearing number, rfl, rfl, rfl, rfl, rfl, .inl rfl⟩

def surroundings (environment : Environment) (call : Call) : Surroundings :=
  ⟨environment, call.reply, call.now, call.input⟩

def record (wholeWords : Bool) (call : Call) : Except Number.Overlong Record :=
  match call.asked.expression with
  | some expression =>
    .ok (if Text.stripped expression = "" then Assistant.blankRecord call.transcript
      else
        (Calculation.calculateExpression (Text.stripped expression) call.transcript Message.invalidEdit
          false).result)
  | none => (Calculation.calculate call.phrase wholeWords false).map Told.result

def answerCalculation (wholeWords : Bool) (call : Call) : Except Fault Nat × List Event :=
  match call.record wholeWords with
  | .ok record =>
    if record.succeeded then (.ok 0, [.line (record.expression ++ " = " ++ record.result)])
    else (.ok 1, [.complaint record.message])
  | .error overlong => (.error (.assistant (.overlong overlong)), [])

def logsCalculation (wholeWords : Bool) (rows : List Row) (call : Call) : List Row :=
  match call.record wholeWords with
  | .ok record =>
    if record.succeeded then rows ++ [⟨call.now, call.transcript, record.expression, record.result⟩] else rows
  | .error _ => rows

def answer (wholeWords : Bool) (standard : Int) (rows : List Row) (call : Call) : Except Fault Nat × List Event :=
  if call.tends then answerTending call.asked standard rows else call.answerCalculation wholeWords

def logs (wholeWords : Bool) (rows : List Row) (call : Call) : List Row :=
  if call.tends then call.asked.leaves rows else call.logsCalculation wholeWords rows

def work (call : Call) (assistant : Assistant) : Told (Assistant.Outcome Record) :=
  match call.asked.expression with
  | some expression => assistant.correct call.now (.text expression)
  | none => assistant.answerTranscript call.now

variable {assistant : Assistant}

theorem transcript_phrase (unedited : call.asked.expression = none) : call.transcript = call.phrase := by
  unfold transcript
  split
  next empty =>
    rw [unedited, String.isEmpty_iff.1 empty]
    rfl
  next => rfl

theorem work_notes (keeping : assistant.Keeping call.transcript history) {record : Record}
    (given : call.record assistant.preferences.wholeWords = .ok record) :
    Assistant.Notes call.now history record (call.work assistant).result := by
  unfold Call.record at given
  unfold work
  cases asked : call.asked.expression with
  | some expression =>
    rw [asked] at given
    cases given
    exact Assistant.correct_notes keeping call.now expression
  | none =>
    rw [transcript_phrase asked] at keeping
    rw [asked] at given
    cases calculated : Calculation.calculate call.phrase assistant.preferences.wholeWords false with
    | ok told =>
      rw [calculated] at given
      cases given
      exact Assistant.answerTranscript_notes keeping call.now calculated
    | error overlong =>
      rw [calculated] at given
      cases given

theorem work_unread (keeping : assistant.Keeping call.transcript history) {overlong : Number.Overlong}
    (given : call.record assistant.preferences.wholeWords = .error overlong) :
    (call.work assistant).result = (.error (.overlong overlong), assistant) := by
  unfold Call.record at given
  unfold work
  cases asked : call.asked.expression with
  | some expression =>
    rw [asked] at given
    cases given
  | none =>
    rw [transcript_phrase asked] at keeping
    rw [asked] at given
    cases calculated : Calculation.calculate call.phrase assistant.preferences.wholeWords false with
    | ok told =>
      rw [calculated] at given
      cases given
    | error other =>
      rw [calculated] at given
      cases given
      exact Assistant.answerTranscript_unread keeping call.now calculated

theorem record_transcript {wholeWords : Bool} {record : Record} (given : call.record wholeWords = .ok record) :
    record.transcript = call.transcript := by
  have ofOutcome (transcript expression message : String) (outcome : Except (Failure Arithmetic.Refusal) Float) :
      (Record.ofOutcome transcript expression message outcome).transcript = transcript := by
    cases outcome <;> rfl
  unfold Call.record at given
  cases asked : call.asked.expression with
  | some expression =>
    rw [asked] at given
    cases given
    split
    next => rfl
    next => rw [Assistant.calculateExpression_result, ofOutcome]
  | none =>
    rw [asked] at given
    rw [transcript_phrase asked]
    unfold Calculation.calculate at given
    cases understood : Phrase.normalize call.phrase wholeWords with
    | ok expression =>
      rw [understood] at given
      cases given
      rw [Told.result_bind, Assistant.calculateExpression_result, ofOutcome]
    | error overlong =>
      rw [understood] at given
      cases given

theorem chatter_work (unheard : assistant.Unheard quiet) : Chatter quiet (call.work assistant).events := by
  unfold work
  split
  next => exact Assistant.chatter_correct call.now _ unheard
  next => exact Assistant.chatter_answerTranscript call.now unheard

theorem calculateAsked_work (surroundings : Surroundings) (equipment : Equipment) (history : Option History)
    (now : surroundings.now = call.now) :
    calculateAsked surroundings equipment call.asked call.phrase history = do
      match <- employ surroundings equipment call.transcript history call.work with
      | (.error fault, history) => return (.error fault, history)
      | (.ok record, history) => return (.ok (if record.succeeded then 0 else 1), history) := by
  unfold calculateAsked transcript
  cases asked : call.asked.expression with
  | some expression =>
    have working : call.work = fun assistant => assistant.correct surroundings.now (.text expression) := by
      funext assistant
      rw [work, asked, now]
    exact working ▸ rfl
  | none =>
    have working : call.work = fun assistant => assistant.answerTranscript surroundings.now := by
      funext assistant
      rw [work, asked, now]
    exact working ▸ rfl

theorem calculateAsked_ends (configured : Configured environment manager parts standard preferences)
    (opens : Opens parts standard preferences.trace history.table history)
    (numbered : history.table.entries = numberedFrom 1 rows) :
    Ends (Quiet manager preferences) parts
      (calculateAsked (call.surroundings environment) { manager, sink := none, trace := preferences.trace } call.asked
        call.phrase (some history))
      (call.answerCalculation preferences.wholeWords) (call.logsCalculation preferences.wholeWords rows) := by
  have keeping : (hired call.transcript preferences history).Keeping call.transcript history :=
    ⟨rfl, rfl, configured.saves, configured.plain⟩
  have unheard : (hired call.transcript preferences history).Unheard (Quiet manager preferences) :=
    ⟨Quiet.untraced, ⟨history, rfl, fun quiet => opens.trace.trans quiet.untraced⟩, rfl⟩
  have told : Chatter (Quiet manager preferences) (call.work (hired call.transcript preferences history)).events :=
    chatter_work unheard
  rw [calculateAsked_work _ _ _ rfl]
  unfold answerCalculation logsCalculation
  cases given : call.record preferences.wholeWords with
  | ok record =>
    have notes := work_notes keeping given
    have keeps : returned (call.work (hired call.transcript preferences history)).result.2 =
        some (history.noting call.now record) := by
      rw [returned, notes.noted]
      rfl
    obtain ⟨employed, chatter, shown, silent⟩ :=
      employ_works (call.surroundings environment) configured (Prod.ext notes.given rfl) told
    rw [keeps] at employed
    have answered : (if record.succeeded then (.ok 0, [.line (record.expression ++ " = " ++ record.result)])
        else (.ok 1, [.complaint record.message]) : Except Fault Nat × List Event) =
          (.ok (if record.succeeded then 0 else 1), recordEvents record) := by
      unfold recordEvents Record.line
      split <;> rfl
    have logged : (if record.succeeded then rows ++ [⟨call.now, call.transcript, record.expression, record.result⟩]
        else rows) = record.logged call.now rows := by
      rw [← record_transcript given]
      rfl
    dsimp only
    rw [answered, logged]
    refine ⟨?_, ⟨chatter, ?_, silent⟩, history.noting call.now record, ?_,
      (noting_place call.now record history).trans opens.place, noting_numbered numbered call.now record⟩
    next => rw [Told.result_bind, employed]; rfl
    next => rw [Told.events_bind, employed, shown]; exact List.append_nil _
    next => rw [Told.result_bind, employed]; rfl
  | error overlong =>
    obtain ⟨employed, chatter, shown, silent⟩ :=
      employ_works (call.surroundings environment) configured (work_unread keeping given) told
    refine ⟨?_, ⟨chatter, ?_, silent⟩, history, ?_, opens.place, numbered⟩
    next => rw [Told.result_bind, employed]; rfl
    next => rw [Told.events_bind, employed, shown]; exact List.append_nil _
    next => rw [Told.result_bind, employed]; rfl

section Obeying

theorem obey_calculates (plain : call.Plain) (calculates : call.tends = false) (trace : Bool)
    (history : Option History) :
    obey (call.surroundings environment) manager call.asked trace call.phrase history =
      calculateAsked (call.surroundings environment) { manager, sink := none, trace } call.asked call.phrase
        history := by
  have unspoken : chooseSink call.asked manager trace = pure none := by
    rw [chooseSink, plain.unspoken]
    rfl
  have asks : (call.asked.expression.isNone && call.phrase.isEmpty) = false := by
    rcases plain.something with tends | present | spoken
    next => rw [calculates] at tends; cases tends
    next => simp [Option.isSome_iff_ne_none.1 present]
    next => simp [spoken]
  unfold obey
  rw [show (call.asked.clearHistory || call.asked.history.isSome) = false from calculates, unspoken, plain.scripted,
    asks]
  rfl

theorem obey_ends (plain : call.Plain) (configured : Configured environment manager parts standard preferences)
    (opens : Opens parts standard preferences.trace history.table history)
    (numbered : history.table.entries = numberedFrom 1 rows)
    (clock : rows.Pairwise fun earlier later => earlier.createdAt ≤ later.createdAt) :
    Ends (Quiet manager preferences) parts
      (obey (call.surroundings environment) manager call.asked preferences.trace call.phrase (some history))
      (call.answer preferences.wholeWords standard rows) (call.logs preferences.wholeWords rows) := by
  unfold answer logs
  cases tends : call.tends with
  | true =>
    have tending :
        obey (call.surroundings environment) manager call.asked preferences.trace call.phrase (some history) =
        tendHistory call.asked (some history) := if_pos tends
    rw [tending]
    exact tendHistory_ends opens.place numbered opens.limit clock
  | false =>
    rw [obey_calculates plain tends]
    exact calculateAsked_ends configured opens numbered

end Obeying

end Call

end Calculating

end SpokenArithmetic.CommandLine
