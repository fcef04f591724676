import SpokenArithmetic.Proofs.Settings.Precedence

set_option autoImplicit false

namespace SpokenArithmetic.Settings

open Text

namespace Document

variable {document : Document} {block key other value : String} {parents : List String}

theorem own?_congr (same : lowered key = lowered other) (name : String) :
    document.own? name key = document.own? name other := by
  rw [← own?_lowered, same, own?_lowered]

theorem get_same (same : lowered key = lowered other) (name : String) :
    document.get name key = document.get name other := by
  rw [← get_lowered, same, get_lowered]

theorem Copies.congr (copies : document.Copies block parents key) (same : lowered key = lowered other) :
    document.Copies block parents other where
  readable name member := by
    rw [← own?_congr same, ← get_same same]
    exact copies.readable name member
  accepted := by
    unfold source?
    simp only [← own?_congr same, ← get_same same]
    exact copies.accepted

theorem copies_of_listed (listed : forall name, name ∈ parents ++ [defaultBlock] ->
    forall key, key ∈ ((document.section? name).getD []).keys ->
      (document.shown? name key).any (fun value => (Reference.strayPercent? value.toList).isNone) = true)
    (key : String) : document.Copies block parents key := by
  have good (name : String) (member : name ∈ parents ++ [defaultBlock])
      (present : (document.own? name key).isSome = true) :
      exists value, document.get name key = .ok value ∧ Reference.strayPercent? value.toList = none := by
    obtain ⟨raw, own⟩ := Option.isSome_iff_exists.1 present
    obtain ⟨entries, found, held⟩ := Option.bind_eq_some_iff.1 own
    have among : lowered key ∈ ((document.section? name).getD []).keys := by
      rw [found, Option.getD_some]
      exact Entries.mem_keys_iff.2 (by rw [held]; rfl)
    obtain ⟨value, shown, plain⟩ := (Option.any_eq_true _ _).1 (listed name member _ among)
    rw [shown?_lowered] at shown
    exact ⟨value, shown?_eq_some.1 shown, Option.isNone_iff_eq_none.1 plain⟩
  refine ⟨fun name member present => ?_, fun _ source first => ?_⟩
  next =>
    obtain ⟨value, got, _⟩ := good name (List.mem_append_left _ member) present
    exact ⟨value, got⟩
  next => exact good source (own?_of_source? first).1 (own?_of_source? first).2

/-- A key that a block takes from elsewhere. The first of its ancestors and the block `default` that has the key shows
a value without percent signs, and the ancestors behind it that have the key show some value. -/
structure Takes (document : Document) (block : String) (parents : List String) (key value : String) : Prop where
  known : block ∈ document.sectionNames
  follows : document.Follows block parents
  acyclic : (block :: parents).Nodup
  absent : document.own? block key = none
  shown : exists source, document.source? (parents ++ [defaultBlock]) key = some source ∧
    document.get source key = .ok value
  readable : document.Readable parents key
  unmarked : Unmarked value

theorem Takes.copies (takes : document.Takes block parents key value) : document.Copies block parents key where
  readable := takes.readable
  accepted _ source first := by
    obtain ⟨again, firstAgain, got⟩ := takes.shown
    rw [first] at firstAgain
    cases firstAgain
    exact ⟨value, got, Reference.strayPercent?_unmarked takes.unmarked⟩

theorem Takes.given (takes : document.Takes block parents key value) (standing : document.Standing) :
    (document.nearestShown? parents key).or (document.shown? defaultBlock key) = some value := by
  obtain ⟨source, first, got⟩ := takes.shown
  rw [source?_append] at first
  rw [standing.nearestShown?_source takes.readable]
  cases nearer : document.source? parents key with
  | some ancestor =>
    rw [nearer] at first
    cases first
    rw [Option.bind_some, shown?_eq_some.2 got, Option.some_or]
  | none =>
    rw [nearer, Option.none_or] at first
    obtain rfl := List.mem_singleton.1 (own?_of_source? first).1
    rw [Option.bind_none, Option.none_or, shown?_eq_some.2 got]

end Document

def Attempt.outcome (attempt : Attempt) : Except Fault Manager :=
  attempt.fault.elim (.ok attempt.manager) .error

namespace Manager

variable {environment : Environment} {manager : Manager} {document : Document} {parents : List String}
  {overrides : Entries} {path explanationsPath block key value : String}

section Giving

def Denotes (manager : Manager) (value text : String) : Prop :=
  exists entries, manager.documentOrEmpty.section? manager.block = some entries ∧
    Reference.Reads (manager.documentOrEmpty.raw? entries) maxReferences value.toList text.toList

def Gives (manager : Manager) (key text : String) : Prop :=
  forall default silent, (manager.get key default silent "string").run.result = .ok (.text text)

/-- A key holds a value when what is given for it is what the value stands for. -/
structure Holds (manager : Manager) (key value : String) : Prop where
  denotes : forall text, manager.Gives key text ↔ manager.Denotes value text
  unmarked : Unmarked value -> manager.Gives key value
  escaped : forall text, value = Reference.escaped text -> manager.Gives key text

theorem holds_of_own (held : manager.document = some document)
    (own : document.own? manager.block key = some value) : manager.Holds key value := by
  obtain ⟨entries, found, listed⟩ := Option.bind_eq_some_iff.1 own
  have itself : manager.documentOrEmpty = document := by rw [documentOrEmpty, held, Option.getD_some]
  have has : manager.has key = .ok true := by
    have member : lowered key ∈ entries.keys := Entries.mem_keys_iff.2 (by rw [listed]; rfl)
    unfold Manager.has Manager.keys Document.keys
    rw [itself, found]
    exact congrArg Except.ok (List.contains_iff_mem.2 (List.mem_append_left _ member))
  have raw : document.raw? entries (lowered key) = some value := by
    unfold Document.raw?
    rw [listed]
    rfl
  have denotes (text : String) : manager.Gives key text ↔ manager.Denotes value text := by
    unfold Denotes
    rw [itself]
    constructor
    next =>
      intro gives
      have shown := (text_of_get (gives none true)).2
      unfold Manager.text at shown
      rw [itself] at shown
      refine ⟨entries, found, (Document.get_ok_iff found raw).1 ?_⟩
      cases got : document.get manager.block key with
      | error fault =>
        rw [got] at shown
        cases shown
      | ok again =>
        rw [got] at shown
        cases shown
        rfl
    next =>
      rintro ⟨again, foundAgain, reads⟩
      rw [found] at foundAgain
      cases foundAgain
      refine get_present has ?_
      unfold Manager.text
      rw [itself, (Document.get_ok_iff found raw).2 reads]
      rfl
  refine ⟨denotes, fun unmarked => ?_, fun text same => ?_⟩
  next => exact (denotes value).2 ⟨entries, itself ▸ found, (Reference.reads_unmarked unmarked).2 rfl⟩
  next =>
    refine (denotes text).2 ⟨entries, itself ▸ found, ?_⟩
    rw [same, Reference.escaped, String.toList_ofList]
    exact Reference.reads_escape text.toList

end Giving

section Loading

theorem readExplanations_keeps (environment : Environment) (manager : Manager) :
    exists explanations, (manager.readExplanations environment).result.manager =
      { manager with explanations := explanations } := by
  unfold readExplanations
  dsimp only
  cases Document.parse manager.explanationsPath ((environment.file? manager.explanationsPath).getD "") with
  | error fault => exact ⟨manager.explanations, rfl⟩
  | ok explanations => exact ⟨some explanations, rfl⟩

theorem readExplanations_fault (found : exists text, environment.file? manager.explanationsPath = some text) :
    (manager.readExplanations environment).result.fault = none ↔
      Explained environment manager.explanationsPath := by
  rcases readExplanations_cases manager found with ⟨explained, _, read⟩ | ⟨unexplained, _, read⟩
  next => exact iff_of_true (read ▸ rfl) explained
  next => exact iff_of_false (read ▸ nofun) unexplained

theorem inherit_names (manager : Manager) (document : Document) :
    (manager.inherit document).result.document.sectionNames = document.sectionNames := by
  unfold inherit
  split
  next => rfl
  next => rfl
  next =>
    rw [Told.result_bind]
    split
    next => rfl
    next => exact Document.setAll_names _ document

theorem fillDefaults_names (manager : Manager) (document : Document) :
    (manager.fillDefaults document).result.document.sectionNames = document.sectionNames := by
  unfold fillDefaults
  split
  next => rfl
  next =>
    split
    next => rfl
    next => exact Document.setAll_names _ document

theorem load_reaches {asked : Option String}
    (succeeds : (manager.load environment asked overrides).result.fault = none) :
    exists document : Document, (forall name, name ∈ document.sectionNames -> name ≠ "" ∧ name ≠ fallbackName) ∧
      asked.getD manager.block ∈ document.sectionNames ∧
      (manager.load environment asked overrides).result =
        ((manager.aimed asked document).complete environment overrides).result := by
  have present : ¬(environment.file? manager.path = none ∨ environment.file? manager.explanationsPath = none) := by
    intro missing
    obtain ⟨path, failed⟩ : exists path, (manager.load environment asked overrides).result =
        ⟨manager, some (.missingFile ⟨path⟩)⟩ := load_missing missing
    rw [failed] at succeeds
    cases succeeds
  obtain ⟨present, explained⟩ := not_or.1 present
  obtain ⟨text, settings⟩ := Option.ne_none_iff_exists'.1 present
  obtain ⟨explanation, explanations⟩ := Option.ne_none_iff_exists'.1 explained
  cases parsed : Document.parse manager.path text with
  | error fault =>
    rw [load_unreadable manager settings explanations parsed] at succeeds
    cases succeeds
  | ok document =>
    by_cases known : asked.getD manager.block ∈ document.sectionNames
    next =>
      exact ⟨document, fun name => Document.named_of_parse parsed, known,
        load_known manager settings explanations parsed known⟩
    next =>
      rw [load_unknown manager settings explanations parsed known] at succeeds
      cases succeeds

theorem step_ok {change : Manager -> Document -> Told Changed} (held : manager.document = some document)
    (succeeds : (step change manager).result.fault = none) :
    (step change manager).result =
      ⟨{ manager with document := some (change manager document).result.document }, none⟩ := by
  have result := step_result change held
  rw [result] at succeeds ⊢
  exact congrArg (Attempt.mk _) succeeds

theorem complete_overridden (manager : Manager) (held : manager.document = some document)
    (ordinary : manager.block ≠ "" ∧ manager.block ≠ fallbackName) (known : manager.block ∈ document.sectionNames)
    (succeeds : (manager.complete environment overrides).result.fault = none) :
    exists before loaded : Document, (manager.complete environment overrides).result.manager.document = some loaded ∧
      (manager.complete environment overrides).result.manager.block = manager.block ∧
      loaded.sectionNames = document.sectionNames ∧ before.Alters manager.block
        (fun key => ((allowed overrides).last? key).or (before.own? manager.block key)) loaded := by
  let inherited := (manager.inherit document).result.document
  let first : Manager := { manager with document := some inherited }
  let before := (first.fillDefaults inherited).result.document
  let second : Manager := { first with document := some before }
  have names : before.sectionNames = document.sectionNames :=
    (fillDefaults_names first inherited).trans (inherit_names manager document)
  obtain ⟨settles, _⟩ := andThen_fault.1 succeeds
  obtain ⟨copies, overridden⟩ := andThen_fault.1 settles
  obtain ⟨inherits, fills⟩ := andThen_fault.1 copies
  have inheriting : (step inherit manager).result = ⟨first, none⟩ := step_ok held inherits
  rw [inheriting] at fills
  have filling : (step fillDefaults first).result = ⟨second, none⟩ := step_ok rfl fills
  have reached : (andThen (step inherit manager) (step fillDefaults)).result = ⟨second, none⟩ :=
    (andThen_ok inheriting).trans filling
  rw [reached] at overridden
  obtain ⟨_, overriding⟩ := applyOverrides_alters second rfl ordinary (names ▸ known) overrides
  obtain ⟨loaded, settled, alters⟩ := overriding overridden
  have last : (manager.complete environment overrides).result =
      (({ second with document := some loaded } : Manager).readExplanations environment).result :=
    andThen_ok ((andThen_ok reached).trans settled)
  obtain ⟨explanations, keeps⟩ := readExplanations_keeps environment { second with document := some loaded }
  refine ⟨before, loaded, ?_, ?_, alters.names.trans names, alters⟩
  next => rw [last, keeps]
  next => rw [last, keeps]

structure Ready (manager : Manager) : Prop where
  ordinary : manager.block ≠ "" ∧ manager.block ≠ fallbackName
  known : manager.block ∈ manager.documentOrEmpty.sectionNames

theorem load_ready {asked : Option String}
    (succeeds : (manager.load environment asked overrides).result.fault = none) :
    let loaded := (manager.load environment asked overrides).result.manager
    loaded.block = asked.getD manager.block ∧ loaded.Ready ∧
      forall key value, (allowed overrides).last? key = some value -> loaded.Holds key value := by
  obtain ⟨document, named, known, completes⟩ := load_reaches succeeds
  dsimp only
  rw [completes] at succeeds ⊢
  obtain ⟨before, loaded, held, block, names, alters⟩ :=
    complete_overridden (manager.aimed asked document) rfl (named _ known) known succeeds
  have aimed : (manager.aimed asked document).block = asked.getD manager.block := rfl
  refine ⟨block, ⟨?_, ?_⟩, fun key value last => holds_of_own held ?_⟩
  next =>
    rw [block, aimed]
    exact named _ known
  next =>
    rw [documentOrEmpty, held, Option.getD_some, block, names]
    exact known
  next => rw [block, alters.own, last, Option.some_or]

end Loading

section Main

variable {asked : Option String} {outcome : Except Fault Manager}

structure Stored (environment : Environment) (path explanationsPath : String) (document : Document) : Prop where
  settings : exists text, environment.file? path = some text ∧ Document.parse path text = .ok document
  alone : document.fallback = []
  explanations : exists text, environment.file? explanationsPath = some text

theorem Stored.standing (stored : Stored environment path explanationsPath document) : document.Standing := by
  obtain ⟨_, _, parsed⟩ := stored.settings
  exact Document.standing_of_parse parsed stored.alone

theorem load_copies (manager : Manager) (asked : Option String) (overrides : Entries)
    (stored : Stored environment manager.path manager.explanationsPath document)
    (known : asked.getD manager.block ∈ document.sectionNames)
    (follows : document.Follows (asked.getD manager.block) parents)
    (acyclic : (asked.getD manager.block :: parents).Nodup) :
    let attempt := (manager.load environment asked overrides).result
    (attempt.fault = none ↔ (defaultBlock ∈ document.sectionNames ∧
      (forall key, document.Copies (asked.getD manager.block) parents key) ∧ Acceptable overrides) ∧
      Explained environment manager.explanationsPath) ∧
    (attempt.fault = none -> exists loaded : Document, attempt.manager.document = some loaded ∧
      attempt.manager.block = asked.getD manager.block ∧
      document.Alters (asked.getD manager.block) (fun key => ((allowed overrides).last? key).or
        ((document.own? (asked.getD manager.block) key).or ((document.nearestShown? parents key).or
          (document.shown? defaultBlock key)))) loaded) := by
  obtain ⟨text, found, parsed⟩ := stored.settings
  obtain ⟨explanation, foundExplanation⟩ := stored.explanations
  obtain ⟨settlesIff, settles⟩ :=
    settle_alters (manager.aimed asked document) stored.standing rfl known follows acyclic overrides
  dsimp only
  rw [load_known manager found foundExplanation parsed known]
  have both : ((manager.aimed asked document).complete environment overrides).result.fault = none ↔
      ((manager.aimed asked document).settle overrides).result.fault = none ∧
        Explained environment manager.explanationsPath := by
    rw [complete_eq_settle, andThen_fault]
    refine and_congr_right fun settled => ?_
    obtain ⟨loaded, reached, _⟩ := settles settled
    rw [reached]
    exact readExplanations_fault ⟨explanation, foundExplanation⟩
  refine ⟨both.trans (and_congr_left' settlesIff), fun succeeds => ?_⟩
  obtain ⟨loaded, reached, alters⟩ := settles (both.1 succeeds).1
  have last : ((manager.aimed asked document).complete environment overrides).result =
      (({ manager.aimed asked document with document := some loaded } : Manager).readExplanations environment).result :=
    andThen_ok reached
  obtain ⟨explanations, keeps⟩ :=
    readExplanations_keeps environment { manager.aimed asked document with document := some loaded }
  refine ⟨loaded, ?_, ?_, alters⟩
  next => rw [last, keeps]
  next => rw [last, keeps]; rfl

structure Besides (environment : Environment) (explanationsPath : String) (document : Document) (block : String)
    (parents : List String) (overrides : Entries) (key : String) : Prop where
  default : defaultBlock ∈ document.sectionNames
  copies : forall other, lowered other ≠ lowered key -> document.Copies block parents other
  acceptable : Acceptable overrides
  explained : Explained environment explanationsPath

theorem load_takes (stored : Stored environment manager.path manager.explanationsPath document)
    (takes : document.Takes (asked.getD manager.block) parents key value)
    (kept : (allowed overrides).last? key = none) :
    let attempt := (manager.load environment asked overrides).result
    (attempt.fault = none ↔
      Besides environment manager.explanationsPath document (asked.getD manager.block) parents overrides key) ∧
    (attempt.fault = none -> attempt.manager.Gives key value) := by
  obtain ⟨succeeds, copies⟩ := load_copies manager asked overrides stored takes.known takes.follows takes.acyclic
  refine ⟨succeeds.trans ⟨?_, ?_⟩, fun done => ?_⟩
  next =>
    rintro ⟨⟨default, all, acceptable⟩, explained⟩
    exact ⟨default, fun other _ => all other, acceptable, explained⟩
  next =>
    rintro ⟨default, others, acceptable, explained⟩
    refine ⟨⟨default, fun other => ?_, acceptable⟩, explained⟩
    by_cases same : lowered other = lowered key
    next => exact takes.copies.congr same.symm
    next => exact others other same
  next =>
    obtain ⟨loaded, held, block, alters⟩ := copies done
    refine (holds_of_own held ?_).unmarked takes.unmarked
    rw [block, alters.own, kept, takes.absent, Option.none_or, Option.none_or, takes.given stored.standing]

/-- How the loading of a block ends: that of a manager in whatever state, or of one that is made because there is
none. -/
inductive Ends (environment : Environment) (path explanationsPath block : String) (overrides : Entries) :
    Except Fault Manager -> Prop
  | renewed {manager : Manager} {asked : Option String} (placed : Placed path explanationsPath manager)
    (aimed : asked.getD manager.block = block) : Ends environment path explanationsPath block overrides
      (manager.load environment asked overrides).result.outcome
  | made {shared : Shared} {parameters : Parameters} {blank : Manager} (dropped : shared.current? = none)
    (prepared : (prepare environment parameters).run.result = .ok (blank, overrides))
    (placed : Placed path explanationsPath blank) (aimed : blank.block = block) :
    Ends environment path explanationsPath block overrides (shared.obtain environment parameters).result.1

theorem outcome_ok {attempt : Attempt} :
    attempt.outcome = .ok manager ↔ attempt.fault = none ∧ attempt.manager = manager := by
  obtain ⟨reached, fault⟩ := attempt
  cases fault <;> simp [Attempt.outcome]

theorem Ends.loaded (ends : Ends environment path explanationsPath block overrides outcome) :
    exists (manager : Manager) (asked : Option String), Placed path explanationsPath manager ∧
      asked.getD manager.block = block ∧ outcome = (manager.load environment asked overrides).result.outcome := by
  cases ends with
  | renewed placed aimed => exact ⟨_, _, placed, aimed, rfl⟩
  | @made shared parameters blank dropped prepared placed aimed =>
    refine ⟨blank, none, placed, aimed, ?_⟩
    rw [obtain_result dropped prepared]
    cases (blank.load environment none overrides).result with
    | mk manager fault => cases fault <;> rfl

theorem set_holds (ordinary : manager.block ≠ "" ∧ manager.block ≠ fallbackName)
    (succeeds : (manager.set key value).fault = none) :
    (manager.set key value).manager.Ready ∧ (manager.set key value).manager.Holds key value := by
  unfold set at succeeds ⊢
  cases done : manager.documentOrEmpty.set manager.block key value with
  | error fault =>
    rw [done] at succeeds
    cases succeeds
  | ok changed =>
    obtain ⟨member, _, rfl⟩ := (Document.set_ok_iff ordinary).1 done
    have alters := Document.assign_alters member key value
    refine ⟨⟨ordinary, alters.names.symm ▸ member⟩, holds_of_own rfl ?_⟩
    exact (alters.own key).trans (if_pos rfl)

/-- A key that a block takes from elsewhere without percent signs never stands in the way of loading, and is given as
it is shown there. The last override of a key, and a value that was set, are given as what they stand for: without
percent signs as they are, and with each one doubled as what they were before. -/
theorem read_back :
    (forall (environment : Environment) (path explanationsPath : String) (document : Document) (block : String)
      (parents : List String) (overrides : Entries) (key value : String),
      Stored environment path explanationsPath document -> document.Takes block parents key value ->
      (allowed overrides).last? key = none ->
      forall outcome, Ends environment path explanationsPath block overrides outcome ->
        ((exists manager, outcome = .ok manager) ↔
          Besides environment explanationsPath document block parents overrides key) ∧
        forall manager, outcome = .ok manager -> manager.Gives key value) ∧
    (forall (environment : Environment) (path explanationsPath block : String) (overrides : Entries)
      (manager : Manager), Ends environment path explanationsPath block overrides (.ok manager) ->
      manager.block = block ∧ manager.Ready ∧
        forall key value, (allowed overrides).last? key = some value -> manager.Holds key value) ∧
    forall (manager : Manager) (key value : String),
      (manager.block ≠ "" ∧ manager.block ≠ fallbackName -> (manager.set key value).fault = none ->
        (manager.set key value).manager.Ready ∧ (manager.set key value).manager.Holds key value) ∧
      (manager.Ready -> (manager.set key (Reference.escaped value)).fault = none) := by
  refine ⟨?_, ?_, ?_⟩
  next =>
    intro environment path explanationsPath document block parents overrides key value stored takes kept outcome ends
    obtain ⟨manager, asked, ⟨rfl, rfl⟩, rfl, rfl⟩ := ends.loaded
    obtain ⟨succeeds, gives⟩ := load_takes stored takes kept
    refine ⟨Iff.trans ?_ succeeds, ?_⟩
    next => simp only [outcome_ok, exists_eq_right']
    next =>
      intro reached done
      obtain ⟨loads, rfl⟩ := outcome_ok.1 done
      exact gives loads
  next =>
    intro environment path explanationsPath block overrides manager ends
    obtain ⟨start, asked, _, rfl, done⟩ := ends.loaded
    obtain ⟨succeeds, rfl⟩ := outcome_ok.1 done.symm
    exact load_ready succeeds
  next =>
    intro manager key value
    refine ⟨set_holds, fun ⟨ordinary, known⟩ => ?_⟩
    have plain : Reference.strayPercent? (Reference.escaped value).toList = none := by
      rw [Reference.escaped, String.toList_ofList]
      exact Reference.strayPercent?_escape value.toList
    unfold set
    rw [(Document.set_ok_iff ordinary).2 ⟨known, plain, rfl⟩]

end Main

section Garden

def gardenSettings : String :=
  "[default]\nunit = m\n[base]\nsize = 3\narea = %(size)s x %(size)s\n[desk]\ninherits = base\n"

def gardenDocument : Document :=
  { fallback := []
    sections := [("default", [("unit", "m")]), ("base", [("size", "3"), ("area", "%(size)s x %(size)s")]),
      ("desk", [("inherits", "base")])] }

def rateSettings : String :=
  "[default]\nrate = 50%%\n[desk]\nunit = m\n"

def rateDocument : Document :=
  { fallback := [], sections := [("default", [("rate", "50%%")]), ("desk", [("unit", "m")])] }

def chainSettings : String :=
  "[default]\nunit = m\n[base]\nsize = %(length)s\n[middle]\ninherits = base\nsize = 3\n[desk]\ninherits = middle\n"

def chainDocument : Document :=
  { fallback := []
    sections := [("default", [("unit", "m")]), ("base", [("size", "%(length)s")]),
      ("middle", [("inherits", "base"), ("size", "3")]), ("desk", [("inherits", "middle")])] }

def holding (settings : String) : Environment :=
  { files := [("block.ini", settings)], directories := [], bindings := [], home := "/home", directory := "/work" }

theorem holding_found (settings : String) : (holding settings).file? "block.ini" = some settings := by
  unfold Environment.file?
  rw [if_neg (by decide +kernel)]
  simp [holding]

theorem gardenSettings_parsed : Document.parse "block.ini" gardenSettings = .ok gardenDocument :=
  rfl

theorem rateSettings_parsed : Document.parse "block.ini" rateSettings = .ok rateDocument :=
  rfl

set_option maxRecDepth 2000 in
theorem chainSettings_parsed : Document.parse "block.ini" chainSettings = .ok chainDocument :=
  rfl

theorem holding_stored {settings : String} (parsed : Document.parse "block.ini" settings = .ok document)
    (alone : document.fallback = []) : Stored (holding settings) "block.ini" "block.ini" document where
  settings := ⟨settings, holding_found settings, parsed⟩
  alone := alone
  explanations := ⟨settings, holding_found settings⟩

theorem garden_takes : gardenDocument.Takes "desk" ["base"] "area" "3 x 3" where
  known := by decide
  follows := .parent (Document.shown?_eq_some.1 (show _ = some "base" by decide)) (by decide)
    (by decide) (.root (by decide))
  acyclic := by decide
  absent := by decide
  shown := ⟨"base", by decide, Document.shown?_eq_some.1 (by decide)⟩
  readable := by
    intro name member _
    obtain rfl := List.mem_singleton.1 member
    exact ⟨"3 x 3", Document.shown?_eq_some.1 (by decide)⟩
  unmarked := by decide

def gardenParameters : Parameters :=
  { path := some "block.ini", explanationsPath := some "block.ini", block := "desk"
    overrides := [("Note", "100%%")] }

theorem garden_besides :
    Besides (holding gardenSettings) "block.ini" gardenDocument "desk" ["base"] gardenParameters.overrides "area" where
  default := by decide
  copies other _ := Document.copies_of_listed (by decide) other
  acceptable := show forall entry, entry ∈ allowed gardenParameters.overrides -> _ by decide
  explained := ⟨_, _, holding_found _, gardenSettings_parsed⟩

theorem read_back_garden :
    exists manager, (Shared.none.obtain (holding gardenSettings) gardenParameters).result.1 = .ok manager ∧
      manager.Gives "area" "3 x 3" ∧ manager.Gives "note" "100%" ∧
      (manager.set "rate" "50%%").fault = none ∧ (manager.set "rate" "50%%").manager.Gives "rate" "50%" := by
  obtain ⟨takes, overridden, sets⟩ := read_back
  have ends : Ends (holding gardenSettings) "block.ini" "block.ini" "desk" gardenParameters.overrides
      (Shared.none.obtain (holding gardenSettings) gardenParameters).result.1 := .made rfl rfl ⟨rfl, rfl⟩ rfl
  obtain ⟨made, gives⟩ := takes _ _ _ _ _ _ _ _ _ (holding_stored gardenSettings_parsed rfl) garden_takes
    (by decide +kernel) _ ends
  obtain ⟨manager, handed⟩ := made.2 garden_besides
  obtain ⟨_, ready, holds⟩ := overridden _ _ _ _ _ manager (handed ▸ ends)
  have note := holds "note" "100%%" (by decide +kernel)
  have set := (sets manager "rate" "50%").2 ready
  have rate := (sets manager "rate" "50%%").1 ready.ordinary set
  exact ⟨manager, handed, gives manager handed, note.escaped "100%" (by decide +kernel), set,
    rate.2.escaped "50%" (by decide +kernel)⟩

def gardener : Manager :=
  { path := "block.ini", explanationsPath := "block.ini", block := "desk", debug := false, verbose := false
    silent := true, mute := false, document := some rateDocument, explanations := none }

theorem rate_got : rateDocument.get "default" "rate" = .ok "50%" :=
  Document.shown?_eq_some.1 (by decide)

theorem rate_not_copied : ¬rateDocument.Copies "desk" [] "rate" := by
  intro copies
  obtain ⟨value, got, plain⟩ := copies.accepted (by decide) "default" (by decide)
  rw [rate_got] at got
  cases got
  exact absurd plain (by decide)

theorem size_got : chainDocument.get "middle" "size" = .ok "3" :=
  Document.shown?_eq_some.1 (by decide)

theorem size_not_copied : ¬chainDocument.Copies "desk" ["middle", "base"] "size" := by
  intro copies
  obtain ⟨value, got⟩ := copies.readable "base" (by decide) (by decide)
  have hidden : chainDocument.shown? "base" "size" = none := by decide
  rw [Document.shown?_eq_some.2 got] at hidden
  cases hidden

/-- What is not read back. A percent sign that the block `default` shows stops the loading of a block that takes it, as
a reference does that leads nowhere from a block behind the one whose value counts. A doubled percent sign that is set
is given as one. An override of a fixed key is passed over. And what is set in the fallback, where a failed load may
leave a manager, is not given at all. -/
theorem not_read_back :
    (rateDocument.source? ["default"] "rate" = some "default" ∧ rateDocument.get "default" "rate" = .ok "50%" ∧
      (gardener.load (holding rateSettings) none []).result.fault ≠ none) ∧
    (chainDocument.source? ["middle", "base", "default"] "size" = some "middle" ∧
      chainDocument.get "middle" "size" = .ok "3" ∧
      (gardener.load (holding chainSettings) none []).result.fault ≠ none) ∧
    ((gardener.set "rate" "50%%").fault = none ∧ (gardener.set "rate" "50%%").manager.Gives "rate" "50%") ∧
    ((gardener.applyOverrides [("config_path", "other.ini")]).result.fault = none ∧
      ((gardener.applyOverrides [("config_path", "other.ini")]).result.manager.get "config_path" none true
        "string").run.result = .ok .null) ∧
    (({ gardener with block := "DEFAULT" } : Manager).set "rate" "1").fault = none ∧
      forall text, ¬(({ gardener with block := "DEFAULT" } : Manager).set "rate" "1").manager.Gives "rate" text := by
  refine ⟨⟨by decide +kernel, rate_got, fun succeeds => ?_⟩, ⟨by decide +kernel, size_got, fun succeeds => ?_⟩,
    ?_, ?_, ?_⟩
  next =>
    have loads := load_copies gardener none [] (holding_stored rateSettings_parsed rfl) (by decide +kernel)
      (.root (by decide +kernel)) (by decide +kernel)
    exact rate_not_copied ((loads.1.1 succeeds).1.2.1 "rate")
  next =>
    have follows : chainDocument.Follows "desk" ["middle", "base"] :=
      .parent (Document.shown?_eq_some.1 (show _ = some "middle" by decide +kernel)) (by decide +kernel)
        (by decide +kernel) (.parent (Document.shown?_eq_some.1 (show _ = some "base" by decide +kernel))
          (by decide +kernel) (by decide +kernel) (.root (by decide +kernel)))
    have loads := load_copies gardener none [] (holding_stored chainSettings_parsed rfl) (by decide +kernel) follows
      (by decide +kernel)
    exact size_not_copied ((loads.1.1 succeeds).1.2.1 "size")
  next =>
    have set : (gardener.set "rate" "50%%").fault = none := rfl
    exact ⟨set, (set_holds (by decide) set).2.escaped "50%" (by decide +kernel)⟩
  next => exact ⟨rfl, get_absent rfl⟩
  next =>
    refine ⟨rfl, fun text gives => ?_⟩
    cases (text_of_get (gives none true)).1

end Garden

end Manager

end SpokenArithmetic.Settings
