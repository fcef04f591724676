import SpokenArithmetic.Proofs.CommandLine.Calls
import SpokenArithmetic.Proofs.Settings.Precedence
import SpokenArithmetic.Proofs.Text.Split

set_option autoImplicit false

namespace SpokenArithmetic

theorem table_put (shelf : Shelf) (parts : List String) (table : Table) :
    (shelf.put (.file parts) table).table (.file parts) = table := by
  simp [Shelf.put, Shelf.table]

namespace CommandLine

open Settings (Shared)

variable {rows : List Row} {standard : Int} {quiet : Prop} {parts : List String}
variable {environment : Environment} {manager : Settings.Manager} {preferences : Preferences} {call : Call}

namespace Call

section Running

variable {kept : Kept} {told : Told (Except Fault Nat × Kept)}

def finds (call : Call) (kept : Kept) : Kept :=
  if call.alone then { kept with shared := Shared.none } else kept

def run (environment : Environment) (call : Call) (kept : Kept) : Told (Except Fault Nat × Kept) :=
  CommandLine.run (call.surroundings environment) call.arguments (call.finds kept)

structure Logged (manager : Settings.Manager) (parts : List String) (rows : List Row) (kept : Kept) : Prop where
  ready : Ready manager kept.shared
  rows : (kept.shelf.table (.file parts)).entries = numberedFrom 1 rows

structure Leaves (quiet : Prop) (manager : Settings.Manager) (parts : List String)
    (told : Told (Except Fault Nat × Kept)) (answer : Except Fault Nat × List Event) (rows : List Row) : Prop where
  exit : told.result.1 = answer.1
  shows : Shows quiet told.events answer.2
  logged : Logged manager parts rows told.result.2

theorem Leaves.behind {A : Type} {first : Told A} {next : A -> Told (Except Fault Nat × Kept)}
    {answer : Except Fault Nat × List Event} (chatter : Chatter quiet first.events)
    (leaves : Leaves quiet manager parts (next first.result) answer rows) :
    Leaves quiet manager parts (first >>= next) answer rows :=
  ⟨leaves.exit, shows_bind chatter leaves.shows, leaves.logged⟩

theorem perform_leaves (plain : call.Plain)
    (configured : Configured environment manager parts standard preferences)
    (live : kept.shared.current? = some manager)
    (numbered : (kept.shelf.table (.file parts)).entries = numberedFrom 1 rows)
    (clock : rows.Pairwise fun earlier later => earlier.createdAt ≤ later.createdAt) :
    Leaves (Quiet manager preferences) manager parts
      (perform (call.surroundings environment) call.asked manager kept)
      (call.answer preferences.wholeWords standard rows) (call.logs preferences.wholeWords rows) := by
  obtain ⟨history, opens, opened, opening⟩ :=
    Configured.openHistory (call.surroundings environment) configured live
  have found : history.table.entries = numberedFrom 1 rows := opens.table ▸ numbered
  have opens : Opens parts standard preferences.trace history.table history :=
    ⟨opens.place, opens.limit, opens.trace, rfl⟩
  obtain ⟨exit, shows, after, leaves, place, left⟩ := obey_ends plain configured opens found clock
  have put : ((after.close kept.shelf).table (.file parts)).entries =
      numberedFrom 1 (call.logs preferences.wholeWords rows) := by
    rw [History.close, place, table_put]
    exact left
  have obeyed : (obey (call.surroundings environment) manager call.asked preferences.trace call.phrase
      (some history)).result = ((call.answer preferences.wholeWords standard rows).1, some after) :=
    Prod.ext exit leaves
  have phrase : " ".intercalate call.asked.phrase = call.phrase := rfl
  unfold perform
  rw [if_neg (by simp [plain.untraced])]
  refine .behind (chatter_consultedFlag (by decide) _) ?_
  rw [configured.trace]
  dsimp only
  rw [if_neg (by simp [plain.uninterpreted])]
  refine .behind opening ?_
  rw [opened]
  dsimp only
  rw [phrase]
  refine ⟨?_, ?_, ?_⟩
  next =>
    rw [Told.result_bind, obeyed]
    rfl
  next =>
    rw [Told.events_bind, obeyed]
    show Shows _ (_ ++ []) _
    rw [List.append_nil]
    exact shows
  next =>
    rw [Told.result_bind, obeyed]
    exact ⟨.inr live, put⟩

theorem finds_logged (call : Call) (logged : Logged manager parts rows kept) :
    Logged manager parts rows (call.finds kept) := by
  unfold finds
  split
  next => exact ⟨.inl rfl, logged.rows⟩
  next => exact logged

theorem run_leaves (plain : call.Plain) (configured : Configured environment manager parts standard preferences)
    (logged : Logged manager parts rows kept)
    (clock : rows.Pairwise fun earlier later => earlier.createdAt ≤ later.createdAt) :
    Leaves (Quiet manager preferences) manager parts (call.run environment kept)
      (call.answer preferences.wholeWords standard rows) (call.logs preferences.wholeWords rows) := by
  have found := finds_logged call logged
  obtain ⟨after, given, live, told⟩ := configured.get found.ready
  have performs := perform_leaves plain configured
    (show ({ call.finds kept with shared := after } : Kept).shared.current? = some manager from live) found.rows clock
  unfold run CommandLine.run
  rw [plain.read]
  dsimp only
  rw [plain.blockless, plain.untraced, show (call.surroundings environment).environment = environment from rfl]
  refine .behind told ?_
  rw [given]
  exact performs

end Running

end Call

section Sequences

variable {environment : Environment} {manager : Settings.Manager} {preferences : Preferences} {call : Call}
variable {calls : List Call} {wholeWords : Bool} {kept : Kept}

def afterRuns (environment : Environment) (calls : List Call) (start : Kept) : Kept :=
  calls.foldl (fun kept call => (call.run environment kept).result.2) start

def loggedRows (wholeWords : Bool) (calls : List Call) : List Row :=
  calls.foldl (Call.logs wholeWords) []

theorem mem_logs {row : Row} (member : row ∈ call.logs wholeWords rows) :
    row ∈ rows ∨ row.createdAt = call.now := by
  unfold Call.logs Asked.leaves Call.logsCalculation at member
  split at member
  next =>
    split at member
    next => cases member
    next => exact .inl member
  next =>
    split at member
    next =>
      split at member
      next =>
        rcases List.mem_append.1 member with before | added
        next => exact .inl before
        next => exact .inr (List.mem_singleton.1 added ▸ rfl)
      next => exact .inl member
    next => exact .inl member

/-- The clock does not go back, neither in the rows that are logged nor between them and the runs to come. -/
structure Timed (rows : List Row) (calls : List Call) : Prop where
  logged : rows.Pairwise fun earlier later => earlier.createdAt ≤ later.createdAt
  ordered : calls.Pairwise fun earlier later => earlier.now ≤ later.now
  between : forall row, row ∈ rows -> forall call, call ∈ calls -> row.createdAt ≤ call.now

theorem logs_clock (clock : rows.Pairwise fun earlier later => earlier.createdAt ≤ later.createdAt)
    (between : forall row, row ∈ rows -> row.createdAt ≤ call.now) :
    (call.logs wholeWords rows).Pairwise fun earlier later => earlier.createdAt ≤ later.createdAt := by
  unfold Call.logs Asked.leaves Call.logsCalculation
  split
  next =>
    split
    next => exact .nil
    next => exact clock
  next =>
    split
    next =>
      split
      next =>
        refine List.pairwise_append.2 ⟨clock, List.pairwise_singleton .., fun row member other added => ?_⟩
        rw [List.mem_singleton.1 added]
        exact between row member
      next => exact clock
    next => exact clock

theorem Timed.step (timed : Timed rows (call :: calls)) : Timed (call.logs wholeWords rows) calls := by
  obtain ⟨first, ordered⟩ := List.pairwise_cons.1 timed.ordered
  refine ⟨logs_clock timed.logged fun row member => timed.between row member call List.mem_cons_self, ordered, ?_⟩
  intro row member other among
  rcases mem_logs member with before | same
  next => exact timed.between row before other (List.mem_cons_of_mem _ among)
  next => exact same ▸ first other among

theorem afterRuns_logged (configured : Configured environment manager parts standard preferences)
    (plain : forall call, call ∈ calls -> call.Plain) {more : List Call} (timed : Timed rows (calls ++ more))
    (logged : Call.Logged manager parts rows kept) :
    Call.Logged manager parts (calls.foldl (Call.logs preferences.wholeWords) rows)
        (afterRuns environment calls kept) ∧
      Timed (calls.foldl (Call.logs preferences.wholeWords) rows) more := by
  induction calls generalizing rows kept with
  | nil => exact ⟨logged, timed⟩
  | cons call rest ih =>
    have leaves := Call.run_leaves (plain call List.mem_cons_self) configured logged timed.logged
    exact ih (fun other among => plain other (List.mem_cons_of_mem _ among)) timed.step leaves.logged

end Sequences

section Faith

variable {environment : Environment} {manager : Settings.Manager} {preferences : Preferences}
variable {told : Told (Except Fault Nat × Kept)} {answer : Except Fault Nat × List Event}

/-- A run that keeps the log faithfully: how it ends, what it leaves on the two outputs, and the rows of the log behind
it. Nothing but the answer comes to the error output, and only chatter comes before it to the other one. -/
structure Faithful (quiet : Prop) (parts : List String) (told : Told (Except Fault Nat × Kept))
    (answer : Except Fault Nat × List Event) (rows : List Row) : Prop where
  exit : told.result.1 = answer.1
  output : exists before, outputOf told.events = before ++ outputOf answer.2 ∧ (quiet -> before = "")
  errorOutput : errorOutputOf told.events = errorOutputOf answer.2
  unwarned : forall event, event ∈ told.events -> event.isWarning = false
  rows : (told.result.2.shelf.table (.file parts)).entries = numberedFrom 1 rows

theorem Call.Leaves.faithful (leaves : Leaves quiet manager parts told answer rows)
    (unwarned : forall event, event ∈ answer.2 -> event.isWarning = false) :
    Faithful quiet parts told answer rows := by
  obtain ⟨chatter, shown, silent⟩ := leaves.shows
  refine ⟨leaves.exit, ⟨outputOf chatter, ?_, chatter_output silent⟩, ?_, ?_, leaves.logged.rows⟩
  next => rw [shown, outputOf_append]
  next => rw [shown, errorOutputOf_append, chatter_errorOutput silent, String.empty_append]
  next =>
    intro event member
    rw [shown] at member
    rcases List.mem_append.1 member with early | late
    next => exact (silent event early).2.1
    next => exact unwarned event late

theorem listed_unwarned (rows : List Row) (count : Nat) (event : Event) (member : event ∈ listed rows count) :
    event.isWarning = false := by
  unfold listed at member
  split at member
  next => exact List.mem_singleton.1 member ▸ rfl
  next =>
    obtain ⟨row, _, rfl⟩ := List.mem_map.1 member
    rfl

theorem Call.answer_unwarned (wholeWords : Bool) (standard : Int) (rows : List Row) (call : Call) (event : Event)
    (member : event ∈ (call.answer wholeWords standard rows).2) : event.isWarning = false := by
  unfold Call.answer Call.answerCalculation at member
  split at member
  next =>
    rcases List.mem_append.1 member with cleared | listing
    next =>
      split at cleared
      next => exact List.mem_singleton.1 cleared ▸ rfl
      next => cases cleared
    next =>
      unfold answerListing at listing
      split at listing
      next => cases listing
      next =>
        split at listing
        next => exact listed_unwarned _ _ event listing
        next => cases listing
  next =>
    split at member
    next => split at member <;> exact List.mem_singleton.1 member ▸ rfl
    next => cases member

/-- Every one of some runs keeps the log faithfully, which has the rows that the runs before it have left. -/
theorem runs_faithful (configured : Configured environment manager parts standard preferences) (start : Kept)
    (ready : Ready manager start.shared) (empty : start.shelf.table (.file parts) = .empty) (calls : List Call)
    (plain : forall call, call ∈ calls -> call.Plain)
    (clock : calls.Pairwise fun earlier later => earlier.now ≤ later.now) (before after : List Call) (call : Call)
    (among : calls = before ++ call :: after) :
    Faithful (Quiet manager preferences) parts (call.run environment (afterRuns environment before start))
      (call.answer preferences.wholeWords standard (loggedRows preferences.wholeWords before))
      (call.logs preferences.wholeWords (loggedRows preferences.wholeWords before)) := by
  subst among
  have logged : Call.Logged manager parts [] start := ⟨ready, congrArg Table.entries empty⟩
  have timed : Timed [] (before ++ call :: after) := ⟨.nil, clock, nofun⟩
  obtain ⟨reached, timed⟩ := afterRuns_logged configured
    (fun other member => plain other (List.mem_append_left _ member)) timed logged
  have leaves := Call.run_leaves (plain call (List.mem_append_right _ List.mem_cons_self)) configured reached
    timed.logged
  exact leaves.faithful (call.answer_unwarned preferences.wholeWords standard _)

end Faith

section Kitchen

open Settings (Document Manager Value)

def kitchenLines : List String :=
  ["[default]", "app_debug=no", "app_verbose=no", "history_enabled=yes", "history_db_url=sqlite:///log",
    "history_default_limit=2", "phrase_cleanup_word_boundaries=yes", "tts_answer_template=\x7bresult\x7d"]

def kitchenSettings : String :=
  String.ofList (kitchenLines.flatMap fun line => line.toList ++ ['\n'])

def kitchenDocument : Document :=
  { fallback := []
    sections := [("default", [("app_debug", "no"), ("app_verbose", "no"), ("history_enabled", "yes"),
      ("history_db_url", "sqlite:///log"), ("history_default_limit", "2"), ("phrase_cleanup_word_boundaries", "yes"),
      ("tts_answer_template", "\x7bresult\x7d")])] }

def kitchenPath : String := "/kitchen/conf/spoken-calc.ini"

def kitchenExplanationsPath : String := "/kitchen/conf/spoken-calc-splainer.ini"

def kitchen : Environment :=
  { files := [(kitchenPath, kitchenSettings), (kitchenExplanationsPath, "")], directories := []
    bindings := [(rootVariable, "/kitchen")], home := "/kitchen", directory := "/kitchen" }

def kitchenPreferences : Preferences :=
  { template := "\x7bresult\x7d" }

theorem kitchen_settings : kitchen.file? kitchenPath = some kitchenSettings := by
  unfold Environment.file?
  rw [if_neg (by decide +kernel)]
  simp [kitchen]

theorem kitchen_explanations : kitchen.file? kitchenExplanationsPath = some "" := by
  have other : kitchen.locate kitchenPath ≠ kitchen.locate kitchenExplanationsPath := by
    unfold Environment.locate
    rw [Path.parts_chars, Path.parts_chars]
    decide +kernel
  unfold Environment.file?
  rw [if_neg (by decide +kernel),
    show kitchen.files = [(kitchenPath, kitchenSettings), (kitchenExplanationsPath, "")] from rfl, List.cons_append,
    List.find?_cons_of_neg (by simpa using other), List.cons_append, List.find?_cons_of_pos (by simp)]
  rfl

theorem kitchen_parsed : Document.parse kitchenPath kitchenSettings = .ok kitchenDocument := by
  have fields : ((Document.parse kitchenPath kitchenSettings).map fun document =>
      (document.fallback, document.sections)).toOption = some (kitchenDocument.fallback, kitchenDocument.sections) := by
    rw [Document.parse, Document.read, kitchenSettings, String.toList_ofList]
    decide
  cases parsed : Document.parse kitchenPath kitchenSettings with
  | error fault =>
    rw [parsed] at fields
    cases fields
  | ok document =>
    rw [parsed] at fields
    cases document
    cases fields
    rfl

theorem kitchen_provided : Manager.Provided kitchen kitchenPath kitchenExplanationsPath kitchenDocument where
  settings := ⟨_, kitchen_settings, kitchen_parsed⟩
  alone := rfl
  unmarked := by decide
  explanations := ⟨_, kitchen_explanations⟩

theorem kitchen_loadable : Manager.Loadable kitchenDocument "default" [] [] where
  known := by decide
  default := by decide
  descends := .root (by decide)
  acyclic := by decide
  distinct := by decide
  unmarked := nofun

theorem kitchen_placed :
    History.Place.ofAddress kitchen (History.resolveAddress kitchen "sqlite:///log") =
      .ok (.file ["kitchen", "log"]) := by
  have resolved : History.resolveAddress kitchen "sqlite:///log" = "sqlite:///log" := by decide +kernel
  have parsed : History.Address.parse? "sqlite:///log" = some ⟨"sqlite", [], ['l', 'o', 'g']⟩ := rfl
  have located : kitchen.locate "log" = ["kitchen", "log"] := by
    unfold Environment.locate
    rw [Path.parts_chars]
    decide +kernel
  have above : kitchen.hasDirectory ["kitchen"] = true := by
    unfold Environment.hasDirectory Environment.locate
    simp only [Path.parts_chars]
    decide +kernel
  have vacant : kitchen.hasDirectory ["kitchen", "log"] = false := by
    unfold Environment.hasDirectory Environment.locate
    simp only [Path.parts_chars]
    decide +kernel
  have missing : kitchen.file? "log" = none := by
    unfold Environment.file? Environment.locate
    simp only [Path.parts_chars]
    decide +kernel
  have checked : History.checkFile kitchen "log" = .ok (.file ["kitchen", "log"]) := by
    unfold History.checkFile
    dsimp only
    rw [located, show ["kitchen", "log"].dropLast = ["kitchen"] from rfl, above, vacant, missing]
    rfl
  unfold History.Place.ofAddress
  rw [resolved, parsed]
  exact checked

theorem kitchen_obtained : exists manager, (Shared.none.get kitchen none false).result.1 = .ok manager ∧
    manager.debug = false ∧ manager.Shows kitchenDocument [] ["default", "default"] := by
  let blank : Manager :=
    { path := kitchenPath, explanationsPath := kitchenExplanationsPath, block := "default", debug := false
      verbose := false, silent := true, mute := false, document := none, explanations := none }
  have settingsPath : kitchen.settingsPath "spoken-calc.ini" = kitchenPath := by decide +kernel
  have explanationsPath : kitchen.settingsPath "spoken-calc-splainer.ini" = kitchenExplanationsPath := by decide +kernel
  have prepared : (Manager.prepare kitchen (Shared.parameters kitchen none false)).run.result = .ok (blank, []) := by
    unfold Shared.parameters
    rw [settingsPath, explanationsPath]
    rfl
  have explained : Manager.Explained kitchen kitchenExplanationsPath :=
    ⟨_, Document.empty, kitchen_explanations, rfl⟩
  have provided : Manager.Provided kitchen blank.path blank.explanationsPath kitchenDocument := kitchen_provided
  obtain ⟨succeeds, settled⟩ := Manager.load_settled provided none kitchen_loadable
  have silent : (blank.load kitchen none []).result.manager.Silent :=
    (Manager.stays_load True kitchen none [] ⟨rfl, rfl⟩).2
  have loaded : (blank.load kitchen none []).result = ⟨(blank.load kitchen none []).result.manager, none⟩ :=
    congrArg (Settings.Attempt.mk _) (succeeds.2 explained)
  refine ⟨(blank.load kitchen none []).result.manager, ?_, silent.undebugged, settled.shows⟩
  rw [get_obtain rfl, Manager.obtain_result rfl prepared, loaded]

theorem flag_text {key value : String} (shown : manager.has key = .ok true ∧ manager.text key = .ok value)
    (missing : Bool) : (Preferences.flag manager key missing).run.result = .ok (Value.isYes value) := by
  have named : Settings.Kind.ofName? (Text.lowered "boolean") = some .flag := by decide
  have given :
      (manager.get key (some (.flag missing)) false "boolean").run.result =
        .ok (.flag (Value.isYes value)) := by
    rw [Manager.get_kind shown.1 shown.2, Value.toKind, named]
    rfl
  unfold Preferences.flag
  rw [run_bind_ok given]
  rfl

theorem kitchen_configured : exists manager, Configured kitchen manager ["kitchen", "log"] 2 kitchenPreferences ∧
    Quiet manager kitchenPreferences := by
  obtain ⟨manager, obtained, undebugged, shows⟩ := kitchen_obtained
  have shown (key value : String)
      (counts : Manager.counting? kitchenDocument [] ["default", "default"] key = some value) :=
    Manager.text_of_get (shows.value key value counts none true)
  have debug := shown "app_debug" "no" (by decide)
  have verbose := shown "app_verbose" "no" (by decide)
  have enabled := shown "history_enabled" "yes" (by decide)
  have address := shown "history_db_url" "sqlite:///log" (by decide)
  have limit := shown "history_default_limit" "2" (by decide)
  have whole := shown "phrase_cleanup_word_boundaries" "yes" (by decide)
  have template := shown "tts_answer_template" "\x7bresult\x7d" (by decide)
  have present (key : String) (member : key ∈ consulted) : manager.has key = .ok true := by
    simp only [consulted, List.mem_cons, List.not_mem_nil, or_false] at member
    rcases member with rfl | rfl | rfl | rfl | rfl | rfl | rfl
    next => exact debug.1
    next => exact enabled.1
    next => exact address.1
    next => exact limit.1
    next => exact whole.1
    next => exact template.1
    next => exact verbose.1
  have place := Manager.get_present address.1 address.2 none false
  have limited : (History.limitSetting manager).run.result = .ok (.whole 2) := by
    have named : Settings.Kind.ofName? (Text.lowered "int") = some .whole := by decide +kernel
    unfold History.limitSetting
    rw [Manager.get_kind limit.1 limit.2, Value.toKind, named]
    rfl
  have worded : (Preferences.templateSetting manager).run.result = .ok "\x7bresult\x7d" := by
    unfold Preferences.templateSetting
    rw [run_bind_ok (Manager.get_present template.1 template.2 _ _)]
    rfl
  refine ⟨manager, {
    obtained := obtained
    place := ⟨_, _, place, rfl, kitchen_placed⟩
    limit := limited
    enabled := flag_text enabled true
    saves := rfl
    wholeWords := flag_text whole true
    template := worded
    trace := flag_text debug false
    verbose := flag_text verbose false
    plain := ⟨[.result], by decide⟩ }, rfl, undebugged, present⟩

def addition : Call :=
  ⟨["two", "plus", "two"], { phrase := ["two", "plus", "two"] }, History.morning, .unreachable, "", true⟩

def blankEdit : Call :=
  ⟨["--expression= "], { expression := some " " }, History.morning, .unreachable, "", true⟩

def review : Call :=
  ⟨["--clear-history", "--history=5"], { history := some 5, clearHistory := true },
    History.noon, .unreachable, "", true⟩

theorem runs_faithful_kitchen :
    let reply := review.run kitchen (afterRuns kitchen [addition, blankEdit] Kept.nothing)
    let rows := loggedRows true [addition, blankEdit]
    reply.result.1 = .ok 0 ∧
      outputOf reply.events = outputOf [.line s!"History cleared ({rows.length} entries)",
        .line "No calculations yet. Start by speaking a calculation!"] ∧
      errorOutputOf reply.events = "" ∧
      (reply.result.2.shelf.table (.file ["kitchen", "log"])).entries = [] := by
  obtain ⟨manager, configured, quiet⟩ := kitchen_configured
  have bare : forall word, word ∈ ["two", "plus", "two"] -> Bare word := by
    unfold Bare
    decide +kernel
  have five : Number.readInteger "5".toList = .ok 5 := rfl
  have plain : forall call, call ∈ [addition, blankEdit, review] -> call.Plain := by
    intro call member
    simp only [List.mem_cons, List.not_mem_nil, or_false] at member
    rcases member with rfl | rfl | rfl
    next => exact (Call.Usual.phrase bare (by decide)).plain _ _ _ _
    next => exact (Call.Usual.expression (show forall word, word ∈ [] -> Bare word from nofun) " ").plain _ _ _ _
    next => exact (Call.Usual.clearAndList five).plain _ _ _ _
  have clock : [addition, blankEdit, review].Pairwise fun earlier later => earlier.now ≤ later.now := by
    have before : History.morning < History.noon := .cons (.cons (.cons (.rel (by decide))))
    refine .cons ?_ (.cons ?_ (List.pairwise_singleton ..))
    next =>
      intro later member
      simp only [List.mem_cons, List.not_mem_nil, or_false] at member
      rcases member with rfl | rfl
      next => exact .inr rfl
      next => exact .inl before
    next =>
      intro later member
      exact List.mem_singleton.1 member ▸ .inl before
  have faithful := runs_faithful configured Kept.nothing (.inl rfl) rfl [addition, blankEdit, review] plain clock
    [addition, blankEdit] [] review rfl
  obtain ⟨before, output, silent⟩ := faithful.output
  rw [silent quiet, String.empty_append] at output
  exact ⟨faithful.exit, output, faithful.errorOutput, faithful.rows⟩

def noonInKitchen : Surroundings :=
  ⟨kitchen, .unreachable, History.noon, ""⟩

/-- Neither does every expression that is given end with zero or one, nor is every listing given that is asked for. -/
theorem runs_refused :
    (¬forall expression : String, exists code, code ≤ 1 ∧
      (run noonInKitchen ["--expression", expression] Kept.nothing).result.1 = .ok code) ∧
    ¬forall count : Int, 1 ≤ count ->
      (run noonInKitchen ["--history", toString count] Kept.nothing).result.1 = .ok 0 := by
  constructor
  next =>
    intro accepted
    obtain ⟨code, small, exit⟩ := accepted "-5+3"
    have refused : read ["--expression", "-5+3"] = .error (.missingValue .expression) := by decide +kernel
    unfold run at exit
    rw [refused] at exit
    cases exit
    exact absurd small (by decide)
  next =>
    intro listed
    obtain ⟨manager, configured, _⟩ := kitchen_configured
    have exit := listed 9223372036854775808 (by decide)
    have asked : read ["--history", "9223372036854775808"] = .ok (some { history := some 9223372036854775808 }) := by
      decide +kernel
    let call : Call := ⟨["--history", "9223372036854775808"], { history := some 9223372036854775808 }, History.noon,
      .unreachable, "", false⟩
    have plain : call.Plain := ⟨asked, rfl, rfl, rfl, rfl, rfl, .inl rfl⟩
    have leaves := Call.run_leaves plain configured
      (show Call.Logged manager ["kitchen", "log"] [] Kept.nothing from ⟨.inl rfl, rfl⟩) .nil
    have shown : toString (9223372036854775808 : Int) = "9223372036854775808" := by decide
    rw [shown] at exit
    have failed := exit.symm.trans leaves.exit
    cases failed

end Kitchen

end CommandLine

end SpokenArithmetic
