import SpokenArithmetic.Proofs.Settings.ReadBack
import SpokenArithmetic.Proofs.Settings.Spread

set_option autoImplicit false

namespace SpokenArithmetic.Settings

open Text

namespace Document

variable {document changed : Document} {block name key value : String} {parents blocks : List String}

def nearestHeld? (document : Document) (blocks : List String) (key : String) : Option String :=
  blocks.findSome? (document.held? · key)

/-- The value of a key that is in force in a block: its own, else that of the fallback, else that of the nearest of its
ancestors and the block `default` which has the key itself. -/
def settled? (document : Document) (block : String) (parents : List String) (key : String) : Option String :=
  (document.own? block key).or
    ((document.fallback.find? (lowered key)).or (document.nearest? (parents ++ [defaultBlock]) key))

theorem nearest?_spread (document : Document) (blocks : List String) :
    document.spread.nearest? blocks = document.nearestHeld? blocks := by
  funext key
  unfold nearest? nearestHeld?
  rw [show (document.spread.own? · key) = (document.held? · key) from funext fun name => by rw [own?_spread]]

theorem nearestHeld?_own (same : forall name, name ∈ blocks -> document.held? name key = document.own? name key) :
    document.nearestHeld? blocks key = document.nearest? blocks key := by
  unfold nearestHeld? nearest?
  induction blocks with
  | nil => rfl
  | cons name rest ih =>
    obtain ⟨here, others⟩ := List.forall_mem_cons.1 same
    rw [List.findSome?_cons, List.findSome?_cons, here, ih others]

theorem nearest?_source (document : Document) (blocks : List String) (key : String) :
    document.nearest? blocks key = (document.source? blocks key).bind (document.own? · key) := by
  unfold nearest? source?
  induction blocks with
  | nil => rfl
  | cons name rest ih =>
    cases own : document.own? name key with
    | none => rw [List.findSome?_cons, own, List.find?_cons_of_neg (by simp [own]), ih]
    | some value => rw [List.findSome?_cons, own, List.find?_cons_of_pos (by simp [own]), Option.bind_some, own]

theorem held?_lowered (document : Document) (name key : String) :
    document.held? name (lowered key) = document.held? name key := by
  unfold held?
  rw [lowered_lowered]

theorem Clear.shown?_held (clear : document.Clear) (name : String) : document.shown? name = document.held? name := by
  funext key
  rw [← own?_spread, ← clear.spread.shown?_own, shown?, shown?, get_spread]

theorem Turns.known (turns : document.Turns block (.ok parents)) :
    forall name, name ∈ block :: parents -> name ∈ document.sectionNames := by
  cases turns with
  | rests _ _ known => exact known

theorem Turns.ancestors (turns : document.Turns block (.ok parents)) (clear : document.Clear) :
    document.ancestors block = .ok parents :=
  (ancestors_turns clear.parentsUnmarked (turns.known block List.mem_cons_self) (Nat.le_succ _)).unique turns

theorem held?_settled (known : forall name, name ∈ block :: parents ++ [defaultBlock] -> name ∈ document.sectionNames)
    (key : String) :
    (document.held? block key).or ((document.nearestHeld? parents key).or (document.held? defaultBlock key)) =
      document.settled? block parents key := by
  have held (name : String) (member : name ∈ block :: parents ++ [defaultBlock]) := held?_eq (known name member) key
  rw [settled?, held block (by simp), Option.or_assoc]
  cases fallen : document.fallback.find? (lowered key) with
  | some value => rw [Option.some_or, Option.some_or]
  | none =>
    have same (name : String) (member : name ∈ block :: parents ++ [defaultBlock]) :
        document.held? name key = document.own? name key := by
      rw [held name member, fallen, Option.or_none]
    have nearer : document.nearestHeld? parents key = document.nearest? parents key :=
      nearestHeld?_own fun name member => same name (by simp [member])
    rw [same defaultBlock (by simp), nearer, nearest?_append, nearest?_cons document defaultBlock, nearest?_nil,
      Option.or_none]

end Document

namespace Manager

open Document

variable {document : Document} {manager : Manager} {parents : List String} {overrides : Entries}

section Steps

theorem inherit_supplies (manager : Manager) (clear : document.Clear)
    (turns : document.Turns manager.block (.ok parents)) :
    exists inherited, (manager.inherit document).result = ⟨inherited, none⟩ ∧ document.Supplies manager.block
      (fun key => (document.held? manager.block key).or (document.nearestHeld? parents key)) inherited := by
  have known := turns.known manager.block List.mem_cons_self
  have ancestors := turns.ancestors clear
  cases parents with
  | nil =>
    have alone : (fun key => (document.held? manager.block key).or (document.nearestHeld? [] key)) =
        document.held? manager.block := funext fun key => Option.or_none
    rw [alone]
    exact ⟨document, inherit_root ancestors, supplies_self clear manager.block⟩
  | cons parent others =>
    obtain ⟨entries, inherits, neat, named⟩ := clear.spread.inherited_shown
      (sectionNames_spread document ▸ known)
      (fun name member => sectionNames_spread document ▸ turns.known name (List.mem_cons_of_mem _ member))
      (clear.spread.readable (parent :: others))
    rw [inherited_spread] at inherits
    simp only [own?_spread, clear.spread.nearestShown?_own, nearest?_spread] at named
    have unmarked : forall change, change ∈ given entries ->
        exists value, change.value = .ok value ∧ Unmarked value := by
      unfold given
      rw [List.forall_mem_map]
      rintro ⟨key, value⟩ listed
      have lower : lowered key = key := neat.lowerKeys (key, value) listed
      have found := neat.mem_iff.1 (lower.symm ▸ listed)
      rw [named] at found
      split_ifs at found
      obtain ⟨name, _, held⟩ := List.exists_of_findSome?_eq_some found
      exact ⟨value, rfl, clear.unmarked_held held⟩
    obtain ⟨inherited, set, supplies⟩ := setAll_supplies clear known unmarked
    have values : (fun key => (latest? key (given entries)).or (document.held? manager.block key)) =
        fun key => (document.held? manager.block key).or (document.nearestHeld? (parent :: others) key) := by
      funext key
      rw [latest?_given neat, named]
      cases document.held? manager.block key <;> simp
    exact ⟨inherited, (inherit_given ancestors inherits).trans set, values ▸ supplies⟩

theorem fillDefaults_supplies (manager : Manager) (clear : document.Clear)
    (known : manager.block ∈ document.sectionNames) (default : defaultBlock ∈ document.sectionNames) :
    exists filled, (manager.fillDefaults document).result = ⟨filled, none⟩ ∧ document.Supplies manager.block
      (fun key => (document.held? manager.block key).or (document.held? defaultBlock key)) filled := by
  by_cases itself : manager.block = defaultBlock
  next =>
    have alone : (fun key => (document.held? manager.block key).or (document.held? defaultBlock key)) =
        document.held? manager.block := by
      funext key
      rw [itself, Option.or_self]
    rw [alone]
    exact ⟨document, fillDefaults_itself itself document, supplies_self clear manager.block⟩
  next =>
    obtain ⟨keys, missing, held⟩ := clear.spread.missingKeys_own
      (sectionNames_spread document ▸ known) (sectionNames_spread document ▸ default)
    rw [missingKeys_spread] at missing
    simp only [own?_spread] at held
    have unmarked : forall made, made ∈ keys.map (manager.filling document) ->
        exists value, made.value = .ok value ∧ Unmarked value := by
      rw [List.forall_mem_map]
      intro key listed
      obtain ⟨value, here⟩ := Option.isSome_iff_exists.1 ((held key).1 listed).2.1
      have unmarked := clear.unmarked_held here
      exact ⟨value, get_held here unmarked, unmarked⟩
    obtain ⟨filled, set, supplies⟩ := setAll_supplies clear known unmarked
    have values : (fun key => (latest? key (keys.map (manager.filling document))).or
        (document.held? manager.block key)) =
        fun key => (document.held? manager.block key).or (document.held? defaultBlock key) := by
      funext key
      have listed : lowered key ∈ keys ↔
          (document.held? defaultBlock key).isSome = true ∧ document.held? manager.block key = none := by
        rw [held, held?_lowered, held?_lowered]
        exact and_iff_right (lowered_lowered key)
      rw [latest?_filling manager document fun key member => ((held key).1 member).1, clear.shown?_held]
      exact or_missing (fun hit => (listed.1 hit).2) fun absent unlisted =>
        Option.not_isSome_iff_eq_none.1 fun present => unlisted (listed.2 ⟨present, absent⟩)
    exact ⟨filled, (fillDefaults_missing itself missing).trans set, values ▸ supplies⟩

theorem settle_supplies (manager : Manager) (clear : document.Clear) (holds : manager.document = some document)
    (turns : document.Turns manager.block (.ok parents)) (default : defaultBlock ∈ document.sectionNames)
    (overrides : Entries) :
    let done := (manager.settle overrides).result
    (done.fault = none ↔ Acceptable overrides) ∧
    (done.fault = none -> exists loaded : Document, done = ⟨{ manager with document := some loaded }, none⟩ ∧
      loaded.sectionNames = document.sectionNames ∧ forall key, loaded.held? manager.block key =
        ((allowed overrides).last? key).or (document.settled? manager.block parents key)) := by
  have known := turns.known manager.block List.mem_cons_self
  obtain ⟨inherited, inherits, first⟩ := inherit_supplies manager clear turns
  let next : Manager := { manager with document := some inherited }
  obtain ⟨filled, fills, second⟩ :=
    fillDefaults_supplies next first.clear (first.names ▸ known) (first.names ▸ default)
  let last : Manager := { next with document := some filled }
  have inheriting : (step inherit manager).result = ⟨next, none⟩ := by
    rw [step_result inherit holds, inherits]
    rfl
  have filling : (step fillDefaults next).result = ⟨last, none⟩ := by
    rw [step_result fillDefaults rfl, fills]
    rfl
  have both := first.trans second
  have there : manager.block ∈ filled.sectionNames := both.names ▸ known
  obtain ⟨succeeds, overriding⟩ := applyOverrides_alters last rfl (both.clear.named _ there) there overrides
  dsimp only
  unfold settle
  rw [andThen_ok ((andThen_ok inheriting).trans filling)]
  refine ⟨succeeds, fun done => ?_⟩
  obtain ⟨loaded, reached, alters⟩ := overriding done
  refine ⟨loaded, reached, alters.names.trans both.names, fun key => ?_⟩
  have force : filled.held? manager.block key = document.settled? manager.block parents key := by
    have blocks : forall name, name ∈ manager.block :: parents ++ [defaultBlock] -> name ∈ document.sectionNames := by
      intro name member
      rcases List.mem_append.1 member with chain | last
      next => exact turns.known name chain
      next => exact List.mem_singleton.1 last ▸ default
    rw [← held?_settled blocks, both.held, first.held, Option.or_assoc]
    by_cases itself : defaultBlock = manager.block
    next =>
      -- Then the block `default` has inherited too, but nothing that the block has not got as well.
      rw [itself, first.held]
      cases document.held? manager.block key with
      | some value => rfl
      | none => rw [Option.none_or, Option.none_or, Option.none_or, Option.or_self, Option.or_none]
    next => rw [first.others defaultBlock itself]
  rw [alters.held there, Option.or_assoc, ← held?_eq there]
  exact congrArg _ force

end Steps

section Giving

variable {key value : String}

theorem has_held (holds : manager.document = some document) (known : manager.block ∈ document.sectionNames)
    (key : String) : manager.has key = .ok (document.held? manager.block key).isSome := by
  obtain ⟨entries, found⟩ := section?_of_mem known
  have listed : document.keys manager.block = .ok (document.fallback.spread entries).keys := by
    unfold Document.keys
    rw [found, Entries.keys_spread]
  have held : document.held? manager.block key = (document.fallback.spread entries).find? (lowered key) := by
    rw [held?_eq known, own?_section found, Entries.find?_spread]
  have contained : (document.fallback.spread entries).keys.contains (lowered key) =
      (document.held? manager.block key).isSome := by
    rw [Bool.eq_iff_iff, List.contains_iff_mem, Entries.mem_keys_iff, held]
  unfold Manager.has Manager.keys
  rw [documentOrEmpty, holds, Option.getD_some, listed]
  exact congrArg Except.ok contained

theorem gives_of_held (holds : manager.document = some document)
    (held : document.held? manager.block key = some value) (unmarked : Unmarked value) : manager.Gives key value := by
  intro default silent
  refine get_present ?_ ?_ default silent
  next => rw [has_held holds (section_of_held held), held, Option.isSome_some]
  next =>
    unfold Manager.text
    rw [documentOrEmpty, holds, Option.getD_some, get_held held unmarked]
    rfl

theorem Gives.unique {other : String} (gives : manager.Gives key value) (again : manager.Gives key other) :
    value = other := by
  have same := (gives none true).symm.trans (again none true)
  cases same
  rfl

end Giving

section Main

variable {environment : Environment} {path explanationsPath block : String} {outcome : Except Fault Manager}

structure Furnished (environment : Environment) (path explanationsPath : String) (document : Document) : Prop where
  settings : exists text, environment.file? path = some text ∧ Document.parse path text = .ok document
  sections : forall found, found ∈ document.sections -> forall entry, entry ∈ found.2 -> Unmarked entry.2
  fallback : forall entry, entry ∈ document.fallback -> Unmarked entry.2
  explanations : exists text, environment.file? explanationsPath = some text

theorem Furnished.clear (furnished : Furnished environment path explanationsPath document) : document.Clear := by
  obtain ⟨text, _, parsed⟩ := furnished.settings
  exact clear_of_parse parsed furnished.sections furnished.fallback

theorem settled_unmarked (clear : document.Clear) {key value : String}
    (known : forall name, name ∈ block :: parents ++ [defaultBlock] -> name ∈ document.sectionNames)
    (settled : document.settled? block parents key = some value) : Unmarked value := by
  rw [← held?_settled known] at settled
  rcases Option.or_eq_some_iff.1 settled with own | ⟨_, others⟩
  next => exact clear.unmarked_held own
  next =>
    rcases Option.or_eq_some_iff.1 others with inherited | ⟨_, default⟩
    next =>
      obtain ⟨name, _, held⟩ := List.exists_of_findSome?_eq_some inherited
      exact clear.unmarked_held held
    next => exact clear.unmarked_held default

theorem load_settles (furnished : Furnished environment manager.path manager.explanationsPath document)
    (asked : Option String) (turns : document.Turns (asked.getD manager.block) (.ok parents))
    (default : defaultBlock ∈ document.sectionNames) (overrides : Entries) :
    let attempt := (manager.load environment asked overrides).result
    (attempt.fault = none ↔ Acceptable overrides ∧ Explained environment manager.explanationsPath) ∧
    (attempt.fault = none -> exists loaded : Document, attempt.manager.document = some loaded ∧
      attempt.manager.block = asked.getD manager.block ∧ asked.getD manager.block ∈ loaded.sectionNames ∧
      forall key, loaded.held? (asked.getD manager.block) key =
        ((allowed overrides).last? key).or (document.settled? (asked.getD manager.block) parents key)) := by
  obtain ⟨text, found, parsed⟩ := furnished.settings
  obtain ⟨explanation, foundExplanation⟩ := furnished.explanations
  have known := turns.known _ List.mem_cons_self
  let aimed := manager.aimed asked document
  obtain ⟨settlesIff, settles⟩ := settle_supplies aimed furnished.clear rfl turns default overrides
  dsimp only
  rw [load_known manager found foundExplanation parsed known]
  have both : (aimed.complete environment overrides).result.fault = none ↔
      (aimed.settle overrides).result.fault = none ∧ Explained environment manager.explanationsPath := by
    rw [complete_eq_settle, andThen_fault]
    refine and_congr_right fun settled => ?_
    obtain ⟨loaded, reached, _⟩ := settles settled
    rw [reached]
    exact readExplanations_fault ⟨explanation, foundExplanation⟩
  refine ⟨both.trans (and_congr_left' settlesIff), fun succeeds => ?_⟩
  obtain ⟨loaded, reached, names, held⟩ := settles (both.1 succeeds).1
  have last : (aimed.complete environment overrides).result =
      (({ aimed with document := some loaded } : Manager).readExplanations environment).result := andThen_ok reached
  obtain ⟨explanations, keeps⟩ := readExplanations_keeps environment { aimed with document := some loaded }
  rw [last, keeps]
  exact ⟨loaded, rfl, rfl, names ▸ known, held⟩

/-- What a block is given for a key when the settings have a fallback. A value that the block has itself comes first,
then one of the fallback, then that of the nearest ancestor with the key, and then that of the block `default`. So an
ancestor's value is given for a key that the block lacks exactly when the fallback has no other one. -/
theorem fallback_first (furnished : Furnished environment path explanationsPath document)
    (turns : document.Turns block (.ok parents)) (default : defaultBlock ∈ document.sectionNames)
    (ends : Ends environment path explanationsPath block overrides outcome) :
    ((exists manager, outcome = .ok manager) ↔ Acceptable overrides ∧ Explained environment explanationsPath) ∧
    forall manager key, outcome = .ok manager -> (allowed overrides).last? key = none ->
      (forall value, document.settled? block parents key = some value -> manager.Gives key value) ∧
      (document.settled? block parents key = none ->
        (manager.get key none true "string").run.result = .ok .null) ∧
      forall ancestor value, document.own? block key = none -> document.source? parents key = some ancestor ->
        document.own? ancestor key = some value ->
          (manager.Gives key value ↔
            forall other, document.fallback.find? (lowered key) = some other -> other = value) := by
  obtain ⟨start, asked, ⟨rfl, rfl⟩, rfl, rfl⟩ := ends.loaded
  obtain ⟨succeeds, settles⟩ := load_settles furnished asked turns default overrides
  refine ⟨Iff.trans (by simp only [outcome_ok, exists_eq_right']) succeeds, fun manager key done kept => ?_⟩
  obtain ⟨loads, rfl⟩ := outcome_ok.1 done
  obtain ⟨loaded, holds, block, there, held⟩ := settles loads
  have blocks : forall name, name ∈ asked.getD start.block :: parents ++ [defaultBlock] ->
      name ∈ document.sectionNames := by
    intro name member
    rcases List.mem_append.1 member with chain | last
    next => exact turns.known name chain
    next => exact List.mem_singleton.1 last ▸ default
  rw [← block] at held there
  have force := held key
  rw [kept, Option.none_or, block] at force
  have gives (value : String) (settled : document.settled? (asked.getD start.block) parents key = some value) :
      (start.load environment asked overrides).result.manager.Gives key value :=
    gives_of_held holds (by rw [block, force, settled]) (settled_unmarked furnished.clear blocks settled)
  refine ⟨gives, fun none => ?_, fun ancestor value absent first own => ?_⟩
  next =>
    refine get_absent ?_
    rw [has_held holds there, block, force, none]
    rfl
  next =>
    have nearest : document.nearest? (parents ++ [defaultBlock]) key = some value := by
      rw [nearest?_append, nearest?_source, first, Option.bind_some, own, Option.some_or]
    cases fallen : document.fallback.find? (lowered key) with
    | none => exact iff_of_true (gives value (by rw [settled?, absent, fallen, nearest]; rfl)) nofun
    | some other =>
      have given := gives other (by rw [settled?, absent, fallen]; rfl)
      constructor
      next =>
        rintro again _ ⟨⟩
        exact given.unique again
      next => exact fun same => same other rfl ▸ given

def sharedSettings : String :=
  "[DEFAULT]\ntone = red\n[default]\n[base]\ntone = blue\n[desk]\ninherits = base\n"

def sharedDocument : Document :=
  { fallback := [("tone", "red")]
    sections := [("default", []), ("base", [("tone", "blue")]), ("desk", [("inherits", "base")])] }

theorem sharedSettings_parsed : Document.parse "block.ini" sharedSettings = .ok sharedDocument :=
  rfl

theorem shared_furnished : Furnished (holding sharedSettings) "block.ini" "block.ini" sharedDocument where
  settings := ⟨_, holding_found sharedSettings, sharedSettings_parsed⟩
  sections := by decide
  fallback := by decide
  explanations := ⟨_, holding_found sharedSettings⟩

def sharedParameters : Parameters :=
  { path := some "block.ini", explanationsPath := some "block.ini", block := "desk" }

theorem shared_turns : sharedDocument.Turns "desk" (.ok ["base"]) :=
  .rests (.step (by decide) .start) (by decide) (by decide)
    (show sharedDocument.parentName? "base" = none by decide)

theorem fallback_first_shared :
    exists manager, (Shared.none.obtain (holding sharedSettings) sharedParameters).result.1 = .ok manager ∧
      manager.Gives "tone" "red" ∧ ¬manager.Gives "tone" "blue" := by
  have ends : Ends (holding sharedSettings) "block.ini" "block.ini" "desk" []
      (Shared.none.obtain (holding sharedSettings) sharedParameters).result.1 := .made rfl rfl ⟨rfl, rfl⟩ rfl
  obtain ⟨made, given⟩ := fallback_first shared_furnished shared_turns (by decide) ends
  obtain ⟨manager, handed⟩ := made.2 ⟨nofun, _, _, holding_found _, sharedSettings_parsed⟩
  obtain ⟨tone, _, inherited⟩ := given manager "tone" handed rfl
  refine ⟨manager, handed, tone "red" (by decide +kernel), fun gives => ?_⟩
  have same := (inherited "base" "blue" (by decide +kernel) (by decide +kernel) (by decide +kernel)).1 gives
  exact absurd (same "red" (by decide +kernel)) (by decide)

end Main

end Manager

end SpokenArithmetic.Settings
