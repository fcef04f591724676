import SpokenArithmetic.Proofs.Settings.Precedence

set_option autoImplicit false

namespace SpokenArithmetic.Settings

namespace Manager

variable {environment : Environment} {manager : Manager} {block : Option String} {overrides : Entries}
  {document : Document} {text explanation name : String}

section Aimed

theorem andThen_block {attempt : Told Attempt} {further : Manager -> Told Attempt}
    (first : attempt.result.manager.block = name)
    (second : forall reached : Manager, reached.block = name -> (further reached).result.manager.block = name) :
    (andThen attempt further).result.manager.block = name := by
  cases done : attempt.result with
  | mk reached fault =>
    rw [done] at first
    cases fault with
    | none =>
      rw [andThen_ok done]
      exact second reached first
    | some fault =>
      rw [andThen_failed done]
      exact first

theorem step_block (change : Manager -> Document -> Told Changed) (manager : Manager) :
    (step change manager).result.manager.block = manager.block :=
  rfl

theorem applyOverrides_block (manager : Manager) (overrides : Entries) :
    (manager.applyOverrides overrides).result.manager.block = manager.block :=
  rfl

theorem readExplanations_block (environment : Environment) (manager : Manager) :
    (manager.readExplanations environment).result.manager.block = manager.block := by
  unfold readExplanations
  dsimp only
  split <;> rfl

theorem readDocument_block (environment : Environment) (manager : Manager) :
    (manager.readDocument environment).result.manager.block = manager.block := by
  unfold readDocument
  rw [Told.result_bind]
  dsimp only
  split
  next => rfl
  next => split <;> rfl

theorem load_block (settings : environment.file? manager.path = some text)
    (explanations : environment.file? manager.explanationsPath = some explanation) :
    (manager.load environment block overrides).result.manager.block = block.getD manager.block := by
  have moved (reached : Manager) (there : reached.block = block.getD manager.block)
      (change : Manager -> Document -> Told Changed) :
      (step change reached).result.manager.block = block.getD manager.block :=
    (step_block change reached).trans there
  refine andThen_block (andThen_block (andThen_block (andThen_block (andThen_block ?_ ?_) ?_) ?_) ?_) ?_
  next => rw [andThen_ok (checkFiles_found settings explanations)]; rfl
  next => exact fun reached there => (readDocument_block environment reached).trans there
  next => exact fun reached there => moved reached there inherit
  next => exact fun reached there => moved reached there fillDefaults
  next => exact fun reached there => (applyOverrides_block reached overrides).trans there
  next => exact fun reached there => (readExplanations_block environment reached).trans there

theorem load_forgets (settings : environment.file? manager.path = some text)
    (explanations : environment.file? manager.explanationsPath = some explanation) (earlier : Option Document) :
    (({ manager with document := earlier } : Manager).load environment block overrides).result =
      (manager.load environment block overrides).result := by
  cases parsed : Document.parse manager.path text with
  | error fault =>
    rw [load_unreadable { manager with document := earlier } settings explanations parsed,
      load_unreadable manager settings explanations parsed]
    rfl
  | ok document =>
    by_cases known : block.getD manager.block ∈ document.sectionNames
    next =>
      rw [load_known { manager with document := earlier } settings explanations parsed known,
        load_known manager settings explanations parsed known]
      rfl
    next =>
      rw [load_unknown { manager with document := earlier } settings explanations parsed known,
        load_unknown manager settings explanations parsed known]
      rfl

theorem load_uninherited (settings : environment.file? manager.path = some text)
    (explanations : environment.file? manager.explanationsPath = some explanation)
    (parsed : Document.parse manager.path text = .ok document)
    (known : block.getD manager.block ∈ document.sectionNames) {fault : BlockFault}
    (broken : document.ancestors (block.getD manager.block) = .error fault) :
    (manager.load environment block overrides).result = ⟨manager.aimed block document, some (.block fault)⟩ := by
  have stopped : ((manager.aimed block document).inherit document).result = ⟨document, some fault⟩ := by
    unfold inherit
    rw [show document.ancestors (manager.aimed block document).block = .error fault from broken]
    rfl
  have first : (step inherit (manager.aimed block document)).result =
      ⟨manager.aimed block document, some (.block fault)⟩ := by
    unfold step
    rw [Told.result_bind]
    show (⟨{ manager.aimed block document with document := some _ }, _⟩ : Attempt) = _
    rw [show (manager.aimed block document).documentOrEmpty = document from rfl, stopped]
    rfl
  rw [load_known manager settings explanations parsed known]
  exact andThen_failed (andThen_failed (andThen_failed first))

/-- A manager whose active block is not there: neither its keys nor the value of any key can be told. -/
structure Lost (name : String) (manager : Manager) : Prop where
  block : manager.block = name
  keys : manager.keys = .error (.block (.lookup (.noSection name)))
  values : forall key default silent kind, (manager.get key default silent kind).run.result =
    .error (.block (.lookup (.noSection name)))

theorem aimed_lost (unknown : block.getD manager.block ∉ document.sectionNames) :
    (manager.aimed block document).Lost (block.getD manager.block) := by
  have missing : document.section? (block.getD manager.block) = none :=
    Option.not_isSome_iff_eq_none.1 fun found => unknown (Document.section?_isSome_iff.1 found)
  have keys : (manager.aimed block document).keys =
      .error (.block (.lookup (.noSection (block.getD manager.block)))) := by
    unfold Manager.keys Document.keys
    rw [show (manager.aimed block document).documentOrEmpty.section? (manager.aimed block document).block = none
      from missing]
    rfl
  refine ⟨rfl, keys, fun key default silent kind => ?_⟩
  unfold Manager.get Manager.has
  rw [keys]
  rfl

end Aimed

end Manager

namespace Shared

open Manager

variable {environment : Environment} {manager : Manager} {shared : Shared} {document : Document}
  {text explanation name : String} {debug : Bool}

def afterGets (environment : Environment) (name : String) (debug : Bool) (shared : Shared) : Nat -> Shared
  | 0 => shared
  | count + 1 => ((shared.afterGets environment name debug count).get environment (some name) debug).result.2

theorem current?_update (live : shared.current? = some manager) (changed : Manager) :
    (shared.update changed).current? = some changed := by
  unfold current? at live ⊢
  by_cases there : shared.live = true
  next => exact if_pos there
  next =>
    rw [if_neg there] at live
    cases live

theorem get_same (live : shared.current? = some manager) (same : name = manager.block) :
    (shared.get environment (some name) debug).result = (.ok manager, shared) := by
  unfold Shared.get
  rw [live]
  dsimp only
  rw [Told.result_bind, if_pos (by simpa using same)]
  rfl

theorem get_failed {reached : Manager} {fault : Fault} (live : shared.current? = some manager)
    (other : name ≠ manager.block) (failed : (manager.load environment (some name) []).result = ⟨reached, some fault⟩) :
    (shared.get environment (some name) debug).result = (.error fault, shared.update reached) := by
  unfold Shared.get
  rw [live]
  dsimp only
  rw [Told.result_bind, if_neg (by simpa using other), Told.result_bind, failed]
  rfl

theorem get_afterGets (settings : environment.file? manager.path = some text)
    (explanations : environment.file? manager.explanationsPath = some explanation)
    (parsed : Document.parse manager.path text = .ok document) (unknown : name ∉ document.sectionNames)
    (live : shared.current? = some manager) (other : name ≠ manager.block) (count : Nat) :
    ((shared.afterGets environment name debug count).get environment (some name) debug).result =
      (if count = 0 then .error (.block (.missingBlock name)) else .ok (manager.aimed (some name) document),
        shared.update (manager.aimed (some name) document)) := by
  induction count with
  | zero => exact get_failed live other (load_unknown manager settings explanations parsed unknown)
  | succ count ih =>
    have reached : shared.afterGets environment name debug (count + 1) =
        shared.update (manager.aimed (some name) document) := congrArg Prod.snd ih
    rw [reached, if_neg (Nat.succ_ne_zero count)]
    exact get_same (current?_update live _) rfl

end Shared

namespace Manager

/-- What an attempt to load leaves behind. Without its files it changes nothing. With them the block that was asked
for is active, however the attempt ends, and nothing is left of the document before. A block whose ancestors cannot be
followed is shown without what it would inherit. A missing block is active too, and of the calls that ask the shared
manager for it only the first one fails: the others hand out a manager that is lost. -/
theorem load_stranded (environment : Environment) (manager : Manager) (block : Option String) (overrides : Entries) :
    let attempt := (manager.load environment block overrides).result
    let asked := block.getD manager.block
    (environment.file? manager.path = none ∨ environment.file? manager.explanationsPath = none ->
      exists path, attempt = ⟨manager, some (.missingFile ⟨path⟩)⟩) ∧
    forall text explanation, environment.file? manager.path = some text ->
      environment.file? manager.explanationsPath = some explanation ->
      attempt.manager.block = asked ∧
      (forall earlier,
        (({ manager with document := earlier } : Manager).load environment block overrides).result = attempt) ∧
      (forall fault, Document.parse manager.path text = .error fault ->
        attempt = ⟨manager.aimed block (Document.read manager.path text).1, some (.unreadable fault)⟩) ∧
      forall document, Document.parse manager.path text = .ok document ->
        (forall fault, asked ∈ document.sectionNames -> document.ancestors asked = .error fault ->
          attempt = ⟨manager.aimed block document, some (.block fault)⟩) ∧
        (asked ∉ document.sectionNames ->
          attempt = ⟨manager.aimed block document, some (.block (.missingBlock asked))⟩ ∧
          (manager.aimed block document).Lost asked ∧
          forall shared : Shared, forall name debug count, shared.current? = some manager -> block = some name ->
            name ≠ manager.block ->
            ((shared.afterGets environment name debug count).get environment block debug).result =
              (if count = 0 then .error (.block (.missingBlock name)) else .ok (manager.aimed block document),
                shared.update (manager.aimed block document))) := by
  refine ⟨load_missing, fun text explanation settings explanations =>
    ⟨load_block settings explanations, load_forgets settings explanations,
      fun fault parsed => load_unreadable manager settings explanations parsed,
      fun document parsed => ⟨fun fault known broken => load_uninherited settings explanations parsed known broken,
        fun unknown => ?_⟩⟩⟩
  refine ⟨load_unknown manager settings explanations parsed unknown, aimed_lost unknown, ?_⟩
  rintro shared name debug count live rfl other
  exact Shared.get_afterGets settings explanations parsed unknown live other count

def deskManager : Manager :=
  { path := "office.ini", explanationsPath := "office.ini", block := "desk", debug := false, verbose := false
    silent := true, mute := false, document := some officeDocument, explanations := none }

theorem load_stranded_desk :
    exists stranded : Manager, exists shared : Shared,
      ((Shared.none.hold deskManager).get office (some "chair") false).result =
        (.error (.block (.missingBlock "chair")), shared) ∧
      (shared.get office (some "chair") false).result = (.ok stranded, shared) ∧
      (stranded.get "tone" none false "string").run.result = .error (.block (.lookup (.noSection "chair"))) := by
  obtain ⟨_, found⟩ := load_stranded office deskManager (some "chair") []
  obtain ⟨_, _, _, read⟩ := found _ _ officeSettings_found officeSettings_found
  obtain ⟨_, missing⟩ := read officeDocument officeSettings_parsed
  obtain ⟨_, lost, asks⟩ := missing (by decide +kernel)
  have first := asks (Shared.none.hold deskManager) "chair" false 0 rfl rfl (by decide +kernel)
  have second := asks (Shared.none.hold deskManager) "chair" false 1 rfl rfl (by decide +kernel)
  have between : (Shared.none.hold deskManager).afterGets office "chair" false 1 =
      (Shared.none.hold deskManager).update (deskManager.aimed (some "chair") officeDocument) :=
    congrArg Prod.snd first
  rw [between] at second
  exact ⟨_, _, first, second, lost.values "tone" none false "string"⟩

end Manager

end SpokenArithmetic.Settings
