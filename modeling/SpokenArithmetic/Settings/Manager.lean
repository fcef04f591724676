import SpokenArithmetic.Banner
import SpokenArithmetic.Environment
import SpokenArithmetic.Lexicographic
import SpokenArithmetic.Settings.Inheritance
import SpokenArithmetic.Settings.Reader
import SpokenArithmetic.Settings.Typed

set_option autoImplicit false

namespace SpokenArithmetic.Settings

open Text

inductive Fault where
  | noParameters
  | conflictingParameters
  | incompleteParameters
  | variableNotSet (name : String)
  | missingPair (holder name : String)
  | missingFile (missing : MissingFile)
  | emptyBlock
  | unreadable (fault : ReadFault)
  | block (fault : BlockFault)
  | kind (fault : KindFault)

def pairsVariable : String := "SPOKEN_CALC_CONFIG_MGR_CLI_ARGS"

def Fault.message : Fault -> String
  | noParameters =>
    "ConfigurationManager initialization error: No initialization parameters provided.\n"
      ++ "RECOMMENDED: Use ConfigurationManager( env_var_name=\"" ++ pairsVariable ++ "\" )\n"
      ++ "ALTERNATIVE: Provide explicit config_path and splainer_path arguments"
  | conflictingParameters =>
    "ConfigurationManager initialization error: Conflicting initialization parameters.\n"
      ++ "Either provide env_var_name OR provide both config_path and splainer_path, not both."
  | incompleteParameters =>
    "ConfigurationManager initialization error: Incomplete explicit path configuration.\n"
      ++ "When using explicit paths, both config_path and splainer_path must be provided."
  | variableNotSet name => "[" ++ name ++ "] is NOT set"
  | missingPair holder name =>
    "[" ++ holder ++ "] is missing the [" ++ name ++ "] name=value pair"
  | missingFile missing => missing.message
  | emptyBlock => "max() arg is an empty sequence"
  | unreadable fault => fault.message
  | block fault => fault.message
  | kind fault => fault.message

def splitPair? (text : String) : Option (String × String) :=
  match text.toList.dropWhile (· != '=') with
  | [] => none
  | _ :: value => some (String.ofList (text.toList.takeWhile (· != '=')), String.ofList value)

def pairs (decode : Bool) (texts : List String) : Entries :=
  (texts.filterMap splitPair?).foldl (fun entries (name, value) =>
    entries.put name (if decode then value.map fun c => if c = '+' then ' ' else c else value)) []

def pairEvents (texts : List String) : List Event :=
  texts.zipIdx.map fun (text, index) =>
    .line (s!"[{index}]th arg = [{text}]... " ++
      (if (splitPair? text).isSome then "done!" else "SKIPPING, name=value format not found"))

structure Manager where
  path : String
  explanationsPath : String
  block : String
  debug : Bool
  verbose : Bool
  silent : Bool
  mute : Bool
  document : Option Document
  explanations : Option Document

structure Parameters where
  holder : Option String := none
  path : Option String := none
  explanationsPath : Option String := none
  block : String := "default"
  debug : Bool := false
  verbose : Bool := false
  silent : Bool := true
  mute : Bool := false
  overrides : Entries := []

structure Attempt where
  manager : Manager
  fault : Option Fault

namespace Manager

def documentOrEmpty (manager : Manager) : Document :=
  manager.document.getD Document.empty

def fixedKeys : List String :=
  ["config_path", "config_block_id"]

def spoken (asked : Bool) (text : String) : List Event :=
  if asked then [.line text] else []

def overrideEvents (manager : Manager) : Entries -> List Event
  | [] => spoken manager.debug "Skipping cli_args processing"
  | _ => []

def overrideChanges (manager : Manager) : Entries -> (before : List Event) -> List Change × List Event
  | [], before => ([], before)
  | (key, value) :: rest, before =>
    if fixedKeys.contains key then
      manager.overrideChanges rest
        (before ++ spoken (!manager.silent) ("Skipping override of [" ++ key ++ "], it's immutable"))
    else
      let announced := spoken (!manager.silent) ("Overriding [" ++ key ++ "] with [" ++ value ++ "]")
      let (changes, trailing) := manager.overrideChanges rest []
      (⟨key, .ok value, before ++ announced⟩ :: changes, trailing)

def applyOverrides (manager : Manager) (overrides : Entries) : Told Attempt := do
  Told.tell (manager.overrideEvents overrides)
  let (changes, trailing) := manager.overrideChanges overrides []
  let changed <- Document.setAll manager.block changes manager.documentOrEmpty
  Told.tell (if changed.fault.isNone then trailing else [])
  return ⟨{ manager with document := some changed.document }, changed.fault.map .block⟩

def showNames (names : List String) : String :=
  "[" ++ ", ".intercalate (names.map inQuotes) ++ "]"

def inherit (manager : Manager) (document : Document) : Told Changed := do
  match document.ancestors manager.block with
  | .error fault => return ⟨document, some fault⟩
  | .ok [] =>
    Told.tell (spoken manager.debug "No inheritance flag found")
    return ⟨document, none⟩
  | .ok ancestors =>
    Told.tell (spoken (!manager.silent)
      ("* [" ++ manager.block ++ "] inherits from " ++ showNames ancestors))
    match document.inherited manager.block ancestors with
    | .error fault => return ⟨document, some fault⟩
    | .ok entries =>
      document.setAll manager.block (entries.map fun (key, value) => ⟨key, .ok value, []⟩)

def fillDefaults (manager : Manager) (document : Document) : Told Changed := do
  if manager.block = defaultBlock then
    Told.tell (spoken manager.debug
      "Not adding default key=pair values because we're already in the 'default' block")
    return ⟨document, none⟩
  else
    match document.missingKeys manager.block with
    | .error fault => return ⟨document, some fault⟩
    | .ok keys =>
      document.setAll manager.block (keys.map fun key =>
        ⟨key, document.get defaultBlock key,
          spoken (manager.debug && manager.verbose)
            ("Inserting default key [" ++ key ++ "] into [" ++ manager.block ++ "]")⟩)

def sorted (names : List String) : List String :=
  let codes (name : String) : List Nat := name.toList.map Char.toNat
  names.mergeSort fun first second => atOrBehind (codes second) (codes first)

def sectionEvents (manager : Manager) : List Event :=
  { message := "Sections, '*' = current block ID" : Banner }.event ::
    ((sorted manager.documentOrEmpty.sectionNames).map fun name =>
      .line ((if name = manager.block then "* " else "  ") ++ name)) ++ [.line ""]

def andThen (attempt : Told Attempt) (next : Manager -> Told Attempt) : Told Attempt := do
  let done <- attempt
  match done.fault with
  | some _ => return done
  | none => next done.manager

def step (change : Manager -> Document -> Told Changed) (manager : Manager) : Told Attempt := do
  let changed <- change manager manager.documentOrEmpty
  return ⟨{ manager with document := some changed.document }, changed.fault.map .block⟩

def failing (manager : Manager) (fault : Fault) : Attempt :=
  ⟨manager, some fault⟩

def checkFiles (environment : Environment) (manager : Manager) : Told Attempt := do
  match <- environment.checkFile (some manager.path) manager.silent with
  | .error missing => return manager.failing (.missingFile missing)
  | .ok () =>
    match <- environment.checkFile (some manager.explanationsPath) manager.silent with
    | .error missing => return manager.failing (.missingFile missing)
    | .ok () => return ⟨manager, none⟩

def readDocument (environment : Environment) (manager : Manager) : Told Attempt := do
  let path := manager.path
  Told.tell (if manager.silent then [] else
    [{ message := "Initializing configuration_manager [" ++ path ++ "]"
       spaced := true, ending := "\n" : Banner }.event,
      .printed ("Block ID [" ++ manager.block ++ "]\n\n")])
  let (document, unreadable) := Document.read path ((environment.file? path).getD "")
  let manager := { manager with document := some document }
  match unreadable with
  | some fault => return manager.failing (.unreadable fault)
  | none =>
    match document.checkBlock manager.block with
    | .error fault => return manager.failing (.block fault)
    | .ok () =>
      Told.tell (if manager.silent then [] else manager.sectionEvents)
      return ⟨manager, none⟩

def readExplanations (environment : Environment) (manager : Manager) : Told Attempt :=
  let path := manager.explanationsPath
  match Document.parse path ((environment.file? path).getD "") with
  | .error fault => pure (manager.failing (.unreadable fault))
  | .ok document => pure ⟨{ manager with explanations := some document }, none⟩

/-- Loads the settings afresh, of another block when one is given: what the block has, what it
inherits, the defaults and the overrides, in this order. -/
def load (environment : Environment) (block : Option String) (overrides : Entries)
    (manager : Manager) : Told Attempt :=
  let checked := andThen (manager.checkFiles environment) fun manager =>
    pure ⟨{ manager with block := block.getD manager.block }, none⟩
  let read := andThen checked (readDocument environment)
  let inherited := andThen read (step inherit)
  let filled := andThen inherited (step fillDefaults)
  let overridden := andThen filled (applyOverrides · overrides)
  andThen overridden (readExplanations environment)

def requiredPairs : List String :=
  ["config_path", "splainer_path", "config_block_id"]

def prepare (environment : Environment) (parameters : Parameters) :
    Trial Fault (Manager × Entries) := do
  let make (path explanationsPath block : String) : Manager :=
    { path, explanationsPath, block, debug := parameters.debug, verbose := parameters.verbose
      silent := parameters.silent, mute := parameters.mute, document := none, explanations := none }
  match parameters.holder, parameters.path, parameters.explanationsPath with
  | none, none, none => throw .noParameters
  | some holder, none, none =>
    match environment.value? holder with
    | none => throw (.variableNotSet holder)
    | some value =>
      let texts := value.splitOn " "
      Trial.tell (if parameters.debug then pairEvents texts else [])
      let found := pairs true texts
      match requiredPairs.find? fun name => (found.find? name).isNone with
      | some name => throw (.missingPair holder name)
      | none =>
        let root := environment.projectRoot
        let take (name : String) := (found.find? name).getD ""
        let others := found.filter fun (name, _) => !requiredPairs.contains name
        return (make (root ++ take "config_path") (root ++ take "splainer_path")
          (take "config_block_id"), parameters.overrides.foldl (fun entries (key, value) =>
            entries.put key value) others)
  | some _, _, _ => throw .conflictingParameters
  | none, some path, some explanationsPath =>
    return (make path explanationsPath parameters.block, parameters.overrides)
  | none, _, _ => throw .incompleteParameters

def orThrow (attempt : Told Attempt) : Trial Fault Manager :=
  ExceptT.mk do
    let done <- attempt
    return done.fault.elim (.ok done.manager) .error

def make (environment : Environment) (parameters : Parameters) : Trial Fault Manager := do
  let (manager, overrides) <- prepare environment parameters
  orThrow (manager.load environment none overrides)

def lookup {A : Type} (found : Except LookupFault A) : Except Fault A :=
  found.mapError fun fault => .block (.lookup fault)

def keys (manager : Manager) : Except Fault (List String) :=
  lookup (manager.documentOrEmpty.keys manager.block)

def has (manager : Manager) (key : String) : Except Fault Bool :=
  (fun keys => keys.contains (lowered key)) <$> manager.keys

def text (manager : Manager) (key : String) : Except Fault String :=
  lookup (manager.documentOrEmpty.get manager.block key)

def set (manager : Manager) (key value : String) : Attempt :=
  match manager.documentOrEmpty.set manager.block key value with
  | .error fault => manager.failing (.block (.lookup fault))
  | .ok document => ⟨{ manager with document := some document }, none⟩

def explain (manager : Manager) (key ending : String) : Trial Fault (Option String) := do
  let document := manager.explanations.getD Document.empty
  if document.hasKey defaultBlock key then
    let text <- Trial.of (lookup (document.get defaultBlock key))
    Trial.tell [.printed ("'Splainer says: [" ++ key ++ "] = " ++ text ++ ending)]
    return some text
  else
    Trial.tell [.printed ("'Splainer says: ¿WUH? The key [" ++ key
      ++ "] NOT found in the 'splainer.ini file. Check spelling and/or contact the project maintainer?"
      ++ ending)]
    return none

def reportMissing (manager : Manager) (key : String) : Trial Fault Unit := do
  Trial.tell [.line ("Key [" ++ key ++ "] NOT found in [" ++ manager.block ++ "]")]
  let _ <- manager.explain key "\n\n"

/-- The value of a key as one of the wanted kind; the default stands in for a missing key. -/
def get (manager : Manager) (key : String) (default : Option Value) (silent : Bool)
    (kind : String) : Trial Fault Value := do
  let typed (value : Value) : Trial Fault Value := Trial.of ((value.toKind kind).mapError .kind)
  if <- Trial.of (manager.has key) then typed (.text (<- Trial.of (manager.text key)))
  else
    if !(silent || manager.mute) then manager.reportMissing key
    match default with
    | some value => typed value
    | none => return .null

def stem (key : String) : String :=
  String.ofList (key.toList.takeWhile (· != '_'))

def entryLine (brackets : Bool) (width : Nat) (key value : String) : Event :=
  let padding := String.ofList (List.replicate (width - key.length) ' ')
  .line (key ++ padding ++ " = " ++ if brackets then "[" ++ value ++ "]" else value)

def printEntries (manager : Manager) (brackets : Bool) (width : Nat) :
    (last : String) -> List String -> Trial Fault Unit
  | _, [] => pure ()
  | last, key :: rest => do
    Trial.tell (if stem key != last then [.line ""] else [])
    let value <- Trial.of (manager.text key)
    Trial.tell [entryLine brackets width key value]
    manager.printEntries brackets width (stem key) rest

def print (manager : Manager) (brackets : Bool) (beginnings : List String) :
    Trial Fault Unit := do
  let all <- Trial.of manager.keys
  let keys :=
    if beginnings.isEmpty then all
    else all.filter fun key => beginnings.any fun beginning => key.startsWith beginning
  if keys.isEmpty && !beginnings.isEmpty then
    Trial.tell [.line "No configuration keys to print"]
  else
    Trial.tell [{ message := "Configuration for [" ++ manager.block ++ "]", ending := "\n"
                  : Banner }.event]
    if keys.isEmpty then throw .emptyBlock
    let width := (keys.map String.length).foldl max 0
    manager.printEntries brackets width "" (sorted keys)
    Trial.tell [.line ""]

end Manager

end SpokenArithmetic.Settings
