import SpokenArithmetic.CommandLine.Run
import SpokenArithmetic.Proofs.Answer.Filled
import SpokenArithmetic.Proofs.Settings.Silent

set_option autoImplicit false

namespace SpokenArithmetic

theorem run_bind_ok {E A B : Type} {trial : Trial E A} {next : A -> Trial E B} {a : A}
    (done : trial.run.result = .ok a) : (trial >>= next).run.result = (next a).run.result := by
  rw [ExceptT.run_bind, Told.result_bind, done]

theorem run_adapt {E F A : Type} (convert : E -> F) {trial : Trial E A} {a : A} (done : trial.run.result = .ok a) :
    (trial.adapt convert).run.result = .ok a := by
  show (Except.mapError convert <$> trial.run).result = _
  rw [Told.result_map, done]
  rfl

namespace CommandLine

open Settings (Shared Value)

variable {environment : Environment} {manager : Settings.Manager} {shared : Shared} {quiet : Prop}

section Sharing

theorem get_live (environment : Environment) (live : shared.current? = some manager) :
    (shared.get environment none false).result = (.ok manager, shared) ∧
      (shared.get environment none false).events = Shared.reuseEvents manager := by
  unfold Shared.get
  rw [live]
  exact ⟨rfl, List.append_nil _⟩

theorem get_obtain (dropped : shared.current? = none) :
    shared.get environment none false = shared.obtain environment (Shared.parameters environment none false) := by
  unfold Shared.get
  rw [dropped]

theorem obtain_made (dropped : shared.current? = none) (parameters : Settings.Parameters) :
    (shared.obtain environment parameters).result =
      match (Settings.Manager.make environment parameters).run.result with
      | .error fault => (.error fault, shared)
      | .ok manager => (.ok manager, shared.hold manager) := by
  unfold Shared.obtain
  rw [dropped]
  dsimp only
  rw [Told.result_bind]
  cases (Settings.Manager.make environment parameters).run.result <;> rfl

theorem get_dropped (quiet : Prop) (dropped : shared.current? = none)
    (obtained : (Shared.none.get environment none false).result.1 = .ok manager) :
    (shared.get environment none false).result = (.ok manager, shared.hold manager) ∧
      Chatter quiet (shared.get environment none false).events := by
  have given : (Shared.parameters environment none false).silent = true ∧
      (Shared.parameters environment none false).debug = false := by
    unfold Shared.parameters
    split <;> exact ⟨rfl, rfl⟩
  rw [get_obtain rfl, obtain_made rfl] at obtained
  rw [get_obtain dropped]
  refine ⟨?_, Settings.Manager.chatter_obtain environment given.1 given.2 dropped⟩
  rw [obtain_made dropped]
  split at obtained
  next => cases obtained
  next =>
    cases obtained
    rfl

end Sharing

section Configuring

def consulted : List String :=
  ["app_debug", "history_enabled", "history_db_url", "history_default_limit", "phrase_cleanup_word_boundaries",
    "tts_answer_template", "app_verbose"]

/-- Settings under which a history is kept in a file: what they say about the history and about the assistants. -/
structure Configured (environment : Environment) (manager : Settings.Manager) (parts : List String) (standard : Int)
    (preferences : Preferences) : Prop where
  obtained : (Shared.none.get environment none false).result.1 = .ok manager
  place : exists given address, (manager.get "history_db_url" none false "string").run.result = .ok given ∧
    (History.orSetting given (History.addressSetting manager)).run.result = .ok (.text address) ∧
    History.Place.ofAddress environment (History.resolveAddress environment address) = .ok (.file parts)
  limit : (History.limitSetting manager).run.result = .ok (.whole standard)
  enabled : (Preferences.flag manager "history_enabled" true).run.result = .ok true
  saves : preferences.savesAnswers = true
  wholeWords : (Preferences.flag manager "phrase_cleanup_word_boundaries" true).run.result = .ok preferences.wholeWords
  template : (Preferences.templateSetting manager).run.result = .ok preferences.template
  trace : (Preferences.flag manager "app_debug" false).run.result = .ok preferences.trace
  verbose : (Preferences.flag manager "app_verbose" false).run.result = .ok preferences.verbose
  plain : Template.OnlyResult preferences.template

structure Quiet (manager : Settings.Manager) (preferences : Preferences) : Prop where
  untraced : preferences.trace = false
  undebugged : manager.debug = false
  present : forall key, key ∈ consulted -> manager.has key = .ok true

variable {parts : List String} {standard : Int} {preferences : Preferences}

theorem chatter_consulted {key : String} (member : key ∈ consulted) (default : Option Value) (kind : String) :
    Chatter (Quiet manager preferences) (manager.get key default false kind).run.events :=
  Settings.Manager.chatter_get (fun quiet => quiet.present key member) default false kind

theorem chatter_consultedFlag {key : String} (member : key ∈ consulted) (missing : Bool) :
    Chatter (Quiet manager preferences) (Preferences.flag manager key missing).run.events :=
  Settings.Manager.chatter_flag (fun quiet => quiet.present key member) missing

section Sharing

def Ready (manager : Settings.Manager) (shared : Shared) : Prop :=
  shared.current? = none ∨ shared.current? = some manager

theorem Configured.get (configured : Configured environment manager parts standard preferences)
    (ready : Ready manager shared) :
    exists after, (shared.get environment none false).result = (.ok manager, after) ∧
      after.current? = some manager ∧
      Chatter (Quiet manager preferences) (shared.get environment none false).events := by
  rcases ready with dropped | live
  next =>
    obtain ⟨given, told⟩ := get_dropped (Quiet manager preferences) dropped configured.obtained
    exact ⟨shared.hold manager, given, rfl, told⟩
  next =>
    obtain ⟨given, told⟩ := get_live environment live
    refine ⟨shared, given, live, ?_⟩
    rw [told]
    exact chatter_line _ fun quiet => by simp [quiet.undebugged]

end Sharing

section Hiring

theorem Configured.preferences_eq (configured : Configured environment manager parts standard preferences) :
    (Preferences.ofSettings manager preferences.trace false).run.result = .ok preferences := by
  have traced : (Preferences.orFlag preferences.trace manager "app_debug").run.result = .ok preferences.trace := by
    unfold Preferences.orFlag
    split
    next traces => rw [traces]; rfl
    next => exact configured.trace
  unfold Preferences.ofSettings
  rw [run_bind_ok configured.wholeWords, run_bind_ok configured.enabled, run_bind_ok configured.template,
    run_bind_ok traced]
  unfold Preferences.orFlag
  rw [if_neg nofun, run_bind_ok configured.verbose, ← configured.saves]
  rfl

theorem chatter_ofSettings (trace : Bool) :
    Chatter (Quiet manager preferences) (Preferences.ofSettings manager trace false).run.events := by
  unfold Preferences.ofSettings
  refine chatter_run_bind (chatter_consultedFlag (by decide) _) fun _ _ => ?_
  refine chatter_run_bind (chatter_consultedFlag (by decide) _) fun _ _ => ?_
  refine chatter_run_bind ?_ fun _ _ => chatter_run_bind ?_ fun _ _ => chatter_run_bind ?_ fun _ _ => chatter_pure _
  next =>
    unfold Preferences.templateSetting
    refine chatter_run_bind (chatter_consulted (by decide) _ _) fun value _ => ?_
    split <;> exact chatter_pure _
  next =>
    unfold Preferences.orFlag
    split
    next => exact chatter_pure _
    next => exact chatter_consultedFlag (by decide) _
  next => exact chatter_consultedFlag (by decide) _

def hired (transcript : String) (preferences : Preferences) (history : History) : Assistant :=
  { transcript := .text transcript, preferences, keeper := some (.history history) }

theorem Configured.hire (configured : Configured environment manager parts standard preferences)
    (transcript : String) (history : History) :
    (Assistant.hire (.text transcript) (some manager) (some (.history history)) none preferences.trace
        false).run.result =
        .ok (hired transcript preferences history) ∧
      Chatter (Quiet manager preferences)
        (Assistant.hire (.text transcript) (some manager) (some (.history history)) none preferences.trace
          false).run.events := by
  unfold Assistant.hire
  constructor
  next =>
    dsimp only
    rw [run_bind_ok configured.preferences_eq]
    rfl
  next =>
    refine chatter_run_bind (chatter_ofSettings _) fun made given => ?_
    rw [configured.preferences_eq] at given
    cases given
    refine chatter_run_bind (chatter_tell ?_) fun _ _ => chatter_pure _
    exact chatter_line _ fun quiet => by simp [quiet.untraced]

end Hiring

section Opening

variable {kept : Kept}

structure Opens (parts : List String) (standard : Int) (trace : Bool) (table : Table) (history : History) : Prop where
  place : history.place = .file parts
  limit : history.limit = .whole standard
  trace : history.trace = trace
  table : history.table = table

theorem Configured.choose (configured : Configured environment manager parts standard preferences)
    (live : shared.current? = some manager) :
    exists given address, (manager.get "history_db_url" none false "string").run.result = .ok given ∧
      History.Place.ofAddress environment (History.resolveAddress environment address) = .ok (.file parts) ∧
      (History.choose environment given (.whole standard) shared).result =
        (.ok (.text address, .whole standard), shared) ∧
      Chatter (Quiet manager preferences) (History.choose environment given (.whole standard) shared).events := by
  obtain ⟨given, address, found, resolved, placed⟩ := configured.place
  refine ⟨given, address, found, placed, ?_⟩
  cases given with
  | null =>
    obtain ⟨manages, told⟩ := get_live environment live
    unfold History.choose
    dsimp only
    rw [Told.result_bind, manages]
    constructor
    next =>
      dsimp only
      rw [Told.result_bind, run_bind_ok resolved]
      rfl
    next =>
      refine chatter_bind ?_ ?_
      next =>
        rw [told]
        exact chatter_line _ fun quiet => by simp [quiet.undebugged]
      next =>
        rw [manages]
        refine chatter_bind (chatter_run_bind ?_ fun _ _ => chatter_run_bind (chatter_pure _) fun _ _ => chatter_pure _)
          chatter_nil
        show Chatter _ (History.addressSetting manager).run.events
        exact chatter_consulted (by decide) _ _
  | text given =>
    cases resolved
    exact ⟨rfl, chatter_nil⟩
  | flag | whole | real | list | tuple | dictionary => cases resolved

theorem openWith_chosen {given : Value} {address : String} (kept : Kept)
    (chosen : (History.choose environment given (.whole standard) shared).result =
      (.ok (.text address, .whole standard), shared))
    (placed : History.Place.ofAddress environment (History.resolveAddress environment address) = .ok (.file parts))
    (told : Chatter (Quiet manager preferences) (History.choose environment given (.whole standard) shared).events) :
    let opened := History.openWith environment kept.shelf given (.whole standard) preferences.trace false shared
    (exists history, Opens parts standard preferences.trace (kept.shelf.table (.file parts)) history ∧
      opened.result.1 = .ok history) ∧ Chatter (Quiet manager preferences) opened.events := by
  intro opened
  let history : History :=
    { address, place := .file parts, limit := .whole standard, trace := preferences.trace
      table := kept.shelf.table (.file parts) }
  unfold opened History.openWith
  constructor
  next =>
    refine ⟨history, ⟨rfl, rfl, rfl, rfl⟩, ?_⟩
    rw [Told.result_bind, chosen]
    dsimp only
    rw [Told.result_bind, show History.addressText (.text address) = address from rfl, placed]
    rfl
  next =>
    refine chatter_bind told ?_
    rw [chosen]
    dsimp only
    refine chatter_bind (chatter_line _ fun quiet => by simp [quiet.untraced]) ?_
    split
    next => exact chatter_nil
    next => exact chatter_nil

theorem Configured.openSettingsHistory (surroundings : Surroundings)
    (configured : Configured surroundings.environment manager parts standard preferences)
    (live : kept.shared.current? = some manager) :
    let opened := (openSettingsHistory surroundings manager preferences.trace kept).run
    (exists history, Opens parts standard preferences.trace (kept.shelf.table (.file parts)) history ∧
      opened.result = .ok history) ∧ Chatter (Quiet manager preferences) opened.events := by
  obtain ⟨given, address, found, placed, chosen, told⟩ := configured.choose live
  obtain ⟨⟨history, opens, opened⟩, openedTold⟩ := openWith_chosen kept chosen placed told
  unfold CommandLine.openSettingsHistory
  constructor
  next =>
    refine ⟨history, opens, ?_⟩
    rw [run_bind_ok (run_adapt _ found), run_bind_ok (run_adapt _ configured.limit)]
    exact opened
  next =>
    refine chatter_run_bind (chatter_adapt _ (chatter_consulted (by decide) _ _)) fun address givenAddress => ?_
    refine chatter_run_bind (chatter_adapt _ (chatter_consulted (by decide) _ _)) fun limit givenLimit => ?_
    rw [run_adapt _ found] at givenAddress
    rw [run_adapt _ configured.limit] at givenLimit
    cases givenAddress
    cases givenLimit
    show Chatter _ (_ <$> _ : Told _).events
    rw [Told.events_map]
    exact openedTold

theorem Configured.openHistory (surroundings : Surroundings)
    (configured : Configured surroundings.environment manager parts standard preferences)
    (live : kept.shared.current? = some manager) :
    exists history, Opens parts standard preferences.trace (kept.shelf.table (.file parts)) history ∧
      (openHistory surroundings manager preferences.trace kept).run.result = .ok (some history) ∧
      Chatter (Quiet manager preferences)
        (openHistory surroundings manager preferences.trace kept).run.events := by
  obtain ⟨⟨history, opens, settled⟩, told⟩ := configured.openSettingsHistory surroundings live
  have lifted : (liftM (CommandLine.openSettingsHistory surroundings manager preferences.trace kept).run :
      Trial Settings.Fault _).run.result = .ok (.ok history) := congrArg Except.ok settled
  unfold CommandLine.openHistory
  refine ⟨history, opens, ?_, ?_⟩
  next =>
    rw [run_bind_ok configured.enabled, if_pos rfl, run_bind_ok lifted]
    rfl
  next =>
    refine chatter_run_bind (chatter_consultedFlag (by decide) _) fun enabled _ => ?_
    split
    next =>
      refine chatter_run_bind (told.append chatter_nil) fun outcome given => ?_
      cases given.symm.trans lifted
      exact chatter_pure _
    next => exact chatter_pure _

end Opening

end Configuring

end CommandLine

end SpokenArithmetic
