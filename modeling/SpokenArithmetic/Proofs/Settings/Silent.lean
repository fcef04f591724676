import SpokenArithmetic.Proofs.Assistant.Chatter

set_option autoImplicit false

namespace SpokenArithmetic

variable {quiet : Prop}

theorem chatter_run_bind {E A B : Type} {trial : Trial E A} {next : A -> Trial E B}
    (first : Chatter quiet trial.run.events)
    (rest : forall a, trial.run.result = .ok a -> Chatter quiet (next a).run.events) :
    Chatter quiet (trial >>= next).run.events := by
  rw [ExceptT.run_bind]
  refine chatter_bind first ?_
  cases done : trial.run.result with
  | error fault => exact chatter_nil
  | ok a => exact rest a done

theorem chatter_of {E A : Type} (outcome : Except E A) : Chatter quiet (Trial.of outcome).run.events :=
  chatter_nil

theorem chatter_pure {E A : Type} (a : A) : Chatter quiet (pure a : Trial E A).run.events :=
  chatter_nil

theorem chatter_adapt {E F A : Type} (convert : E -> F) {trial : Trial E A} (told : Chatter quiet trial.run.events) :
    Chatter quiet (trial.adapt convert).run.events := by
  show Chatter quiet (Except.mapError convert <$> trial.run).events
  rw [Told.events_map]
  exact told

theorem chatter_tell {E : Type} {events : List Event} (told : Chatter quiet events) :
    Chatter quiet (Trial.tell events : Trial E Unit).run.events :=
  told.append chatter_nil

theorem written_run_bind {E A B : Type} {trial : Trial E A} {next : A -> Trial E B}
    (first : Written trial.run.events) (rest : forall a, Written (next a).run.events) :
    Written (trial >>= next).run.events := by
  rw [ExceptT.run_bind, Told.events_bind]
  refine written_append first ?_
  cases trial.run.result with
  | error fault => exact written_nil
  | ok a => exact rest a

theorem written_tell {E : Type} {event : Event} (written : event.isWritten = true) :
    Written (Trial.tell [event] : Trial E Unit).run.events :=
  written_append (written_single written) written_nil

namespace Settings

namespace Manager

variable {manager : Manager} {key : String}

section Looking

theorem chatter_explain (loud : ¬quiet) (manager : Manager) (key ending : String) :
    Chatter quiet (manager.explain key ending).run.events := by
  have printed (text : String) : Chatter quiet [.printed text] := chatter_printed loud text
  unfold explain
  dsimp only
  split
  next =>
    refine chatter_run_bind (chatter_of _) fun text _ => ?_
    exact chatter_run_bind (chatter_tell (printed _)) fun _ _ => chatter_pure _
  next => exact chatter_run_bind (chatter_tell (printed _)) fun _ _ => chatter_pure _

theorem chatter_reportMissing (loud : ¬quiet) (manager : Manager) (key : String) :
    Chatter quiet (manager.reportMissing key).run.events := by
  unfold reportMissing
  refine chatter_run_bind (chatter_tell (chatter_printed loud _)) fun _ _ => ?_
  exact chatter_run_bind (chatter_explain loud manager key _) fun _ _ => chatter_pure _

theorem chatter_get (present : quiet -> manager.has key = .ok true) (default : Option Value) (silent : Bool)
    (kind : String) : Chatter quiet (manager.get key default silent kind).run.events := by
  unfold get
  refine chatter_run_bind (chatter_of _) fun has looked => ?_
  cases has with
  | true => exact chatter_run_bind (chatter_of _) fun _ _ => chatter_of _
  | false =>
    have loud : ¬quiet := fun silent => by
      have absent : (Except.ok true : Except Fault Bool) = .ok false := (present silent).symm.trans looked
      cases absent
    rw [if_neg nofun]
    by_cases reports : (!(silent || manager.mute)) = true
    next =>
      rw [if_pos reports]
      refine chatter_run_bind (chatter_reportMissing loud manager key) fun _ _ => ?_
      cases default with
      | some value => exact chatter_of _
      | none => exact chatter_pure _
    next =>
      rw [if_neg reports]
      cases default with
      | some value => exact chatter_of _
      | none => exact chatter_pure _

theorem written_explain (manager : Manager) (key ending : String) :
    Written (manager.explain key ending).run.events := by
  unfold explain
  dsimp only
  split
  next =>
    refine written_run_bind written_nil fun text => ?_
    exact written_run_bind (written_tell rfl) fun _ => written_nil
  next => exact written_run_bind (written_tell rfl) fun _ => written_nil

theorem written_get (manager : Manager) (key : String) (default : Option Value) (silent : Bool) (kind : String) :
    Written (manager.get key default silent kind).run.events := by
  have reported : Written (manager.reportMissing key).run.events :=
    written_run_bind (written_tell rfl) fun _ =>
      written_run_bind (written_explain manager key "\n\n") fun _ => written_nil
  unfold get
  refine written_run_bind written_nil fun has => ?_
  split
  next => exact written_run_bind written_nil fun _ => written_nil
  next =>
    by_cases reports : (!(silent || manager.mute)) = true
    next =>
      rw [if_pos reports]
      exact written_run_bind reported fun _ => by cases default <;> exact written_nil
    next =>
      rw [if_neg reports]
      cases default <;> exact written_nil

theorem chatter_flag (present : quiet -> manager.has key = .ok true) (missing : Bool) :
    Chatter quiet (Preferences.flag manager key missing).run.events := by
  unfold Preferences.flag
  refine chatter_run_bind (chatter_get present _ _ _) fun value _ => ?_
  split <;> exact chatter_pure _

end Looking

section Loading

structure Silent (manager : Manager) : Prop where
  silent : manager.silent = true
  undebugged : manager.debug = false

def Stays (quiet : Prop) (attempt : Told Attempt) : Prop :=
  Chatter quiet attempt.events ∧ attempt.result.manager.Silent

theorem stays_andThen {attempt : Told Attempt} {next : Manager -> Told Attempt} (first : Stays quiet attempt)
    (rest : forall reached : Manager, reached.Silent -> Stays quiet (next reached)) :
    Stays quiet (andThen attempt next) := by
  unfold andThen
  refine ⟨chatter_bind first.1 ?_, ?_⟩
  next =>
    split
    next => exact chatter_nil
    next => exact (rest _ first.2).1
  next =>
    rw [Told.result_bind]
    split
    next => exact first.2
    next => exact (rest _ first.2).2

theorem chatter_spoken {asked : Bool} (unasked : asked = false) (text : String) :
    Chatter quiet (spoken asked text) := by
  rw [unasked]
  exact chatter_nil

theorem chatter_checkFile (environment : Environment) (path : Option String) :
    Chatter quiet (environment.checkFile path true).events := by
  unfold Environment.checkFile
  dsimp only
  split <;> exact chatter_nil

theorem stays_checkFiles (environment : Environment) (silent : manager.Silent) :
    Stays quiet (manager.checkFiles environment) := by
  unfold checkFiles
  rw [silent.silent]
  have kept {fault : Option Fault} : (⟨manager, fault⟩ : Attempt).manager.Silent := silent
  constructor
  next =>
    refine chatter_bind (chatter_checkFile environment _) ?_
    split
    next => exact chatter_nil
    next =>
      refine chatter_bind (chatter_checkFile environment _) ?_
      split <;> exact chatter_nil
  next =>
    rw [Told.result_bind]
    split
    next => exact silent
    next =>
      rw [Told.result_bind]
      split <;> exact silent

theorem stays_readDocument (environment : Environment) (silent : manager.Silent) :
    Stays quiet (manager.readDocument environment) := by
  have moved (document : Option Document) : ({ manager with document := document } : Manager).Silent :=
    ⟨silent.silent, silent.undebugged⟩
  unfold readDocument
  constructor
  next =>
    refine chatter_bind ?_ ?_
    next =>
      rw [if_pos silent.silent]
      exact chatter_nil
    next =>
      dsimp only
      split
      next => exact chatter_nil
      next =>
        split
        next => exact chatter_nil
        next =>
          refine chatter_bind ?_ chatter_nil
          rw [if_pos silent.silent]
          exact chatter_nil
  next =>
    rw [Told.result_bind]
    dsimp only
    split
    next => exact moved _
    next =>
      split
      next => exact moved _
      next => exact moved _

theorem chatter_setAll {changes : List Change} (told : forall change, change ∈ changes -> Chatter quiet change.events)
    (block : String) (document : Document) : Chatter quiet (Document.setAll block changes document).events := by
  induction changes generalizing document with
  | nil => exact chatter_nil
  | cons change rest ih =>
    unfold Document.setAll
    refine chatter_bind (told change List.mem_cons_self) ?_
    split
    next => exact chatter_nil
    next => exact ih (fun other later => told other (List.mem_cons_of_mem _ later)) _

theorem stays_step {change : Manager -> Document -> Told Changed} (silent : manager.Silent)
    (told : Chatter quiet (change manager manager.documentOrEmpty).events) :
    Stays quiet (step change manager) :=
  ⟨chatter_bind told chatter_nil, silent.silent, silent.undebugged⟩

theorem chatter_inherit (silent : manager.Silent) (document : Document) :
    Chatter quiet (manager.inherit document).events := by
  unfold inherit
  split
  next => exact chatter_nil
  next => exact chatter_bind (chatter_spoken silent.undebugged _) chatter_nil
  next =>
    refine chatter_bind (chatter_spoken (by simp [silent.silent]) _) ?_
    split
    next => exact chatter_nil
    next =>
      refine chatter_setAll (fun change member => ?_) _ _
      obtain ⟨entry, _, rfl⟩ := List.mem_map.1 member
      exact chatter_nil

theorem chatter_fillDefaults (silent : manager.Silent) (document : Document) :
    Chatter quiet (manager.fillDefaults document).events := by
  unfold fillDefaults
  split
  next => exact chatter_bind (chatter_spoken silent.undebugged _) chatter_nil
  next =>
    split
    next => exact chatter_nil
    next =>
      refine chatter_setAll (fun change member => ?_) _ _
      obtain ⟨key, _, rfl⟩ := List.mem_map.1 member
      exact chatter_spoken (by simp [silent.undebugged]) _

theorem chatter_overrideChanges (silent : manager.Silent) (overrides : Entries) {before : List Event}
    (told : Chatter quiet before) :
    (forall change, change ∈ (manager.overrideChanges overrides before).1 -> Chatter quiet change.events) ∧
      Chatter quiet (manager.overrideChanges overrides before).2 := by
  have unsaid (text : String) : Chatter quiet (spoken (!manager.silent) text) :=
    chatter_spoken (by simp [silent.silent]) text
  induction overrides generalizing before with
  | nil => exact ⟨nofun, told⟩
  | cons entry rest ih =>
    obtain ⟨key, value⟩ := entry
    unfold overrideChanges
    split
    next => exact ih (told.append (unsaid _))
    next =>
      obtain ⟨changes, trailing⟩ := ih (show Chatter quiet [] from chatter_nil)
      refine ⟨fun change member => ?_, trailing⟩
      rcases List.mem_cons.1 member with rfl | later
      next => exact told.append (unsaid _)
      next => exact changes change later

theorem stays_applyOverrides (overrides : Entries) (silent : manager.Silent) :
    Stays quiet (manager.applyOverrides overrides) := by
  obtain ⟨changes, trailing⟩ := chatter_overrideChanges silent overrides (show Chatter quiet [] from chatter_nil)
  refine ⟨?_, silent.silent, silent.undebugged⟩
  unfold applyOverrides
  refine chatter_bind ?_ (chatter_bind (chatter_setAll changes _ _) (chatter_bind ?_ chatter_nil))
  next =>
    unfold overrideEvents
    split
    next => exact chatter_spoken silent.undebugged _
    next => exact chatter_nil
  next =>
    split
    next => exact trailing
    next => exact chatter_nil

theorem stays_readExplanations (environment : Environment) (silent : manager.Silent) :
    Stays quiet (manager.readExplanations environment) := by
  unfold readExplanations
  dsimp only
  split
  next => exact ⟨chatter_nil, silent⟩
  next => exact ⟨chatter_nil, silent.silent, silent.undebugged⟩

theorem stays_load (quiet : Prop) (environment : Environment) (block : Option String) (overrides : Entries)
    (silent : manager.Silent) : Stays quiet (manager.load environment block overrides) := by
  refine stays_andThen (stays_andThen (stays_andThen (stays_andThen (stays_andThen (stays_andThen ?_ ?_) ?_) ?_) ?_)
    ?_) ?_
  next => exact stays_checkFiles environment silent
  next => exact fun reached silent => ⟨chatter_nil, silent.silent, silent.undebugged⟩
  next => exact fun reached silent => stays_readDocument environment silent
  next => exact fun reached silent => stays_step silent (chatter_inherit silent _)
  next => exact fun reached silent => stays_step silent (chatter_fillDefaults silent _)
  next => exact fun reached silent => stays_applyOverrides overrides silent
  next => exact fun reached silent => stays_readExplanations environment silent

theorem prepare_silent (quiet : Prop) (environment : Environment) {parameters : Parameters}
    (silent : parameters.silent = true)
    (undebugged : parameters.debug = false) :
    Chatter quiet (prepare environment parameters).run.events ∧
      forall blank overrides, (prepare environment parameters).run.result = .ok (blank, overrides) -> blank.Silent := by
  unfold prepare
  dsimp only
  split
  next => exact ⟨chatter_nil, nofun⟩
  next =>
    split
    next => exact ⟨chatter_nil, nofun⟩
    next =>
      constructor
      next =>
        refine chatter_run_bind (chatter_tell ?_) fun _ _ => ?_
        next =>
          rw [if_neg (by simp [undebugged])]
          exact chatter_nil
        next => split <;> exact chatter_nil
      next =>
        intro blank overrides done
        rw [ExceptT.run_bind, Told.result_bind] at done
        split at done
        next =>
          split at done
          next => cases done
          next =>
            cases done
            exact ⟨silent, undebugged⟩
        next => cases done
  next => exact ⟨chatter_nil, nofun⟩
  next =>
    refine ⟨chatter_nil, ?_⟩
    rintro blank overrides ⟨⟩
    exact ⟨silent, undebugged⟩
  next => exact ⟨chatter_nil, nofun⟩

theorem chatter_obtain (environment : Environment) {parameters : Parameters} (silent : parameters.silent = true)
    (undebugged : parameters.debug = false) {shared : Shared} (dropped : shared.current? = none) :
    Chatter quiet (shared.obtain environment parameters).events := by
  obtain ⟨prepared, blankSilent⟩ := prepare_silent quiet environment silent undebugged
  unfold Shared.obtain
  rw [dropped]
  refine chatter_bind ?_ ?_
  next =>
    unfold make
    refine chatter_run_bind prepared fun pair done => ?_
    obtain ⟨blank, overrides⟩ := pair
    exact (stays_load quiet environment none overrides (blankSilent blank overrides done)).1.append chatter_nil
  next => split <;> exact chatter_nil

end Loading

end Manager

end Settings

end SpokenArithmetic
