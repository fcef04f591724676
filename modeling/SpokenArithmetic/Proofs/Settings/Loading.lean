import SpokenArithmetic.Proofs.Settings.Standing
import SpokenArithmetic.Settings.Shared

set_option autoImplicit false

namespace SpokenArithmetic.Settings.Manager

variable {environment : Environment} {manager next : Manager} {fault : Fault} {attempt : Told Attempt}
  {further : Manager -> Told Attempt} {block : Option String} {overrides : Entries} {document : Document}
  {text explanation : String}

theorem andThen_ok (done : attempt.result = ⟨next, none⟩) :
    (andThen attempt further).result = (further next).result := by
  unfold andThen
  rw [Told.result_bind, done]

theorem andThen_failed (done : attempt.result = ⟨next, some fault⟩) :
    (andThen attempt further).result = ⟨next, some fault⟩ := by
  unfold andThen
  rw [Told.result_bind, done]
  rfl

theorem andThen_congr {other : Told Attempt} (same : attempt.result = other.result) :
    (andThen attempt further).result = (andThen other further).result := by
  unfold andThen
  rw [Told.result_bind, Told.result_bind, same]

section Checking

theorem checkFile_found {path : String} (found : environment.file? path = some text) (silent : Bool) :
    (environment.checkFile (some path) silent).result = .ok () := by
  unfold Environment.checkFile
  simp only [Option.bind_some, found]
  rfl

theorem checkFile_missing {path : String} (missing : environment.file? path = none) (silent : Bool) :
    (environment.checkFile (some path) silent).result = .error ⟨path⟩ := by
  unfold Environment.checkFile
  simp only [Option.bind_some, missing]
  rfl

theorem checkFiles_found (settings : environment.file? manager.path = some text)
    (explanations : environment.file? manager.explanationsPath = some explanation) :
    (manager.checkFiles environment).result = ⟨manager, none⟩ := by
  unfold checkFiles
  rw [Told.result_bind, checkFile_found settings]
  dsimp only
  rw [Told.result_bind, checkFile_found explanations]
  rfl

theorem checkFiles_missing
    (missing : environment.file? manager.path = none ∨ environment.file? manager.explanationsPath = none) :
    exists path, (manager.checkFiles environment).result = ⟨manager, some (.missingFile ⟨path⟩)⟩ := by
  unfold checkFiles
  rw [Told.result_bind]
  cases settings : environment.file? manager.path with
  | none =>
    rw [checkFile_missing settings]
    exact ⟨_, rfl⟩
  | some text =>
    have explanations := missing.resolve_left (settings ▸ nofun)
    rw [checkFile_found settings]
    dsimp only
    rw [Told.result_bind, checkFile_missing explanations]
    exact ⟨_, rfl⟩

end Checking

section Reading

def aimed (manager : Manager) (block : Option String) (document : Document) : Manager :=
  { manager with block := block.getD manager.block, document := some document }

def complete (environment : Environment) (overrides : Entries) (manager : Manager) : Told Attempt :=
  andThen (andThen (andThen (step inherit manager) (step fillDefaults)) (applyOverrides · overrides))
    (readExplanations environment)

theorem readDocument_known (manager : Manager) (settings : environment.file? manager.path = some text)
    (parsed : Document.parse manager.path text = .ok document) (known : manager.block ∈ document.sectionNames) :
    (manager.readDocument environment).result = ⟨{ manager with document := some document }, none⟩ := by
  unfold readDocument
  rw [Told.result_bind, settings, Option.getD_some, Document.read_of_parse parsed]
  dsimp only
  rw [Document.checkBlock_ok known]
  rfl

theorem readDocument_unknown (manager : Manager) (settings : environment.file? manager.path = some text)
    (parsed : Document.parse manager.path text = .ok document) (unknown : manager.block ∉ document.sectionNames) :
    (manager.readDocument environment).result =
      ⟨{ manager with document := some document }, some (.block (.missingBlock manager.block))⟩ := by
  unfold readDocument
  rw [Told.result_bind, settings, Option.getD_some, Document.read_of_parse parsed]
  dsimp only
  rw [Document.checkBlock_error unknown]
  rfl

theorem readDocument_unreadable (manager : Manager) {unreadable : ReadFault}
    (settings : environment.file? manager.path = some text)
    (parsed : Document.parse manager.path text = .error unreadable) :
    (manager.readDocument environment).result =
      ⟨{ manager with document := some (Document.read manager.path text).1 }, some (.unreadable unreadable)⟩ := by
  unfold readDocument
  rw [Told.result_bind, settings, Option.getD_some]
  dsimp only
  rw [Document.fault_of_parse parsed]
  rfl

theorem load_missing
    (missing : environment.file? manager.path = none ∨ environment.file? manager.explanationsPath = none) :
    exists path, (manager.load environment block overrides).result = ⟨manager, some (.missingFile ⟨path⟩)⟩ := by
  obtain ⟨path, checked⟩ := checkFiles_missing missing
  exact ⟨path, andThen_failed (andThen_failed (andThen_failed (andThen_failed (andThen_failed
    (andThen_failed checked)))))⟩

theorem load_unknown (manager : Manager) (settings : environment.file? manager.path = some text)
    (explanations : environment.file? manager.explanationsPath = some explanation)
    (parsed : Document.parse manager.path text = .ok document)
    (unknown : block.getD manager.block ∉ document.sectionNames) :
    (manager.load environment block overrides).result =
      ⟨manager.aimed block document, some (.block (.missingBlock (block.getD manager.block)))⟩ := by
  have read := readDocument_unknown { manager with block := block.getD manager.block } settings parsed unknown
  refine andThen_failed (andThen_failed (andThen_failed (andThen_failed ?_)))
  rw [andThen_ok (andThen_ok (checkFiles_found settings explanations))]
  exact read

theorem load_unreadable (manager : Manager) {unreadable : ReadFault}
    (settings : environment.file? manager.path = some text)
    (explanations : environment.file? manager.explanationsPath = some explanation)
    (parsed : Document.parse manager.path text = .error unreadable) :
    (manager.load environment block overrides).result =
      ⟨manager.aimed block (Document.read manager.path text).1, some (.unreadable unreadable)⟩ := by
  have read := readDocument_unreadable { manager with block := block.getD manager.block } settings parsed
  refine andThen_failed (andThen_failed (andThen_failed (andThen_failed ?_)))
  rw [andThen_ok (andThen_ok (checkFiles_found settings explanations))]
  exact read

theorem load_known (manager : Manager) (settings : environment.file? manager.path = some text)
    (explanations : environment.file? manager.explanationsPath = some explanation)
    (parsed : Document.parse manager.path text = .ok document)
    (known : block.getD manager.block ∈ document.sectionNames) :
    (manager.load environment block overrides).result =
      ((manager.aimed block document).complete environment overrides).result := by
  have read := readDocument_known { manager with block := block.getD manager.block } settings parsed known
  let move (manager : Manager) : Told Attempt := pure ⟨{ manager with block := block.getD manager.block }, none⟩
  have checked : (andThen (manager.checkFiles environment) move).result =
      ⟨{ manager with block := block.getD manager.block }, none⟩ := andThen_ok (checkFiles_found settings explanations)
  have reached : (andThen (andThen (manager.checkFiles environment) move) (readDocument environment)).result =
      ⟨manager.aimed block document, none⟩ := (andThen_ok checked).trans read
  exact andThen_congr (andThen_congr (andThen_congr (andThen_ok reached)))

end Reading

end SpokenArithmetic.Settings.Manager
