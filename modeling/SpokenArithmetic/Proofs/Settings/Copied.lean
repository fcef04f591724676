import SpokenArithmetic.Proofs.Settings.Inherited
import SpokenArithmetic.Proofs.Settings.Loading

set_option autoImplicit false

namespace SpokenArithmetic.Settings

open Text

namespace Document

variable {document : Document} {block key value : String} {blocks parents : List String}

def source? (document : Document) (blocks : List String) (key : String) : Option String :=
  blocks.find? fun name => (document.own? name key).isSome

structure Inherits (document : Document) (block : String) (parents : List String) (key : String) : Prop where
  readable : document.Readable parents key
  accepted : document.own? block key = none -> forall value, document.nearestShown? parents key = some value ->
    Reference.strayPercent? value.toList = none

/-- What copying a key into a block needs. Each ancestor that has the key shows it, also those that are passed over;
and where the block does not have the key, what the first of its sources shows is accepted. -/
structure Copies (document : Document) (block : String) (parents : List String) (key : String) : Prop where
  readable : document.Readable parents key
  accepted : document.own? block key = none -> forall source,
    document.source? (parents ++ [defaultBlock]) key = some source ->
    exists value, document.get source key = .ok value ∧ Reference.strayPercent? value.toList = none

theorem shown?_eq_some : document.shown? block key = some value ↔ document.get block key = .ok value := by
  unfold shown?
  cases document.get block key <;> simp [Except.toOption]

theorem Standing.shown?_absent (standing : document.Standing) (absent : document.own? block key = none) :
    document.shown? block key = none := by
  cases shown : document.shown? block key with
  | none => rfl
  | some value =>
    obtain ⟨raw, own⟩ := standing.own?_of_get (shown?_eq_some.1 shown)
    rw [absent] at own
    cases own

theorem Standing.nearestShown?_source (standing : document.Standing) (readable : document.Readable blocks key) :
    document.nearestShown? blocks key = (document.source? blocks key).bind (document.shown? · key) := by
  unfold nearestShown? source?
  induction blocks with
  | nil => rfl
  | cons name rest ih =>
    have others := ih fun other member => readable other (List.mem_cons_of_mem _ member)
    cases own : document.own? name key with
    | none =>
      rw [List.findSome?_cons, standing.shown?_absent own, List.find?_cons_of_neg (by simp [own])]
      exact others
    | some raw =>
      obtain ⟨value, got⟩ := readable name List.mem_cons_self (by simp [own])
      rw [List.findSome?_cons, shown?_eq_some.2 got, List.find?_cons_of_pos (by simp [own]), Option.bind_some,
        shown?_eq_some.2 got]

theorem source?_append (document : Document) (nearer farther : List String) (key : String) :
    document.source? (nearer ++ farther) key = (document.source? nearer key).or (document.source? farther key) :=
  List.find?_append

theorem source?_single (document : Document) (name key : String) :
    document.source? [name] key = if (document.own? name key).isSome = true then some name else none :=
  List.find?_singleton

theorem own?_of_source? {source : String} (first : document.source? blocks key = some source) :
    source ∈ blocks ∧ (document.own? source key).isSome = true :=
  ⟨List.mem_of_find?_eq_some first, by simpa using List.find?_some first⟩

theorem Readable.source (readable : document.Readable blocks key) {source : String}
    (first : document.source? blocks key = some source) : exists value, document.get source key = .ok value :=
  readable source (own?_of_source? first).1 (own?_of_source? first).2

theorem Copies.inherits (copies : document.Copies block parents key) (standing : document.Standing) :
    document.Inherits block parents key where
  readable := copies.readable
  accepted absent value nearest := by
    rw [standing.nearestShown?_source copies.readable] at nearest
    obtain ⟨source, first, shown⟩ := Option.bind_eq_some_iff.1 nearest
    obtain ⟨again, got, plain⟩ := copies.accepted absent source (by rw [source?_append, first]; rfl)
    rw [shown?_eq_some.1 shown] at got
    cases got
    exact plain

theorem Standing.copies_iff (standing : document.Standing) {inherited : Document}
    (alters : document.Alters block
      (fun key => (document.own? block key).or (document.nearestShown? parents key)) inherited) :
    document.Copies block parents key ↔ document.Inherits block parents key ∧
      (inherited.own? block key = none -> (inherited.own? defaultBlock key).isSome = true ->
        exists value, inherited.get defaultBlock key = .ok value ∧ Reference.strayPercent? value.toList = none) := by
  constructor
  next =>
    intro copies
    refine ⟨copies.inherits standing, fun lacking present => ?_⟩
    have other : defaultBlock ≠ block := by
      rintro rfl
      rw [lacking] at present
      cases present
    rw [alters.own, standing.nearestShown?_source copies.readable] at lacking
    obtain ⟨absent, unshown⟩ := Option.or_eq_none_iff.1 lacking
    rw [alters.own_other other] at present
    have outside : document.source? parents key = none := by
      cases first : document.source? parents key with
      | none => rfl
      | some source =>
        obtain ⟨value, got⟩ := copies.readable.source first
        rw [first, Option.bind_some, shown?_eq_some.2 got] at unshown
        cases unshown
    rw [alters.get other]
    exact copies.accepted absent defaultBlock (by rw [source?_append, outside, source?_single, if_pos present]; rfl)
  next =>
    rintro ⟨⟨readable, inherits⟩, fills⟩
    rw [alters.own] at fills
    rw [standing.nearestShown?_source readable] at inherits fills
    refine ⟨readable, fun absent source first => ?_⟩
    rw [source?_append] at first
    cases nearer : document.source? parents key with
    | some ancestor =>
      rw [nearer] at first inherits
      cases first
      obtain ⟨value, got⟩ := readable.source nearer
      exact ⟨value, got, inherits absent value (shown?_eq_some.2 got)⟩
    | none =>
      rw [nearer, Option.none_or] at first
      obtain ⟨listed, present⟩ := own?_of_source? first
      obtain rfl := List.mem_singleton.1 listed
      have other : defaultBlock ≠ block := by
        rintro rfl
        rw [absent] at present
        cases present
      rw [nearer, absent, alters.own_other other, alters.get other] at fills
      exact fills rfl present

theorem Standing.or_shown?_default (standing : document.Standing) {value? : String -> Option String}
    {inherited : Document} (alters : document.Alters block value? inherited) (key : String)
    (kept : forall key, value? key = none -> document.own? block key = none) :
    (value? key).or (inherited.shown? defaultBlock key) = (value? key).or (document.shown? defaultBlock key) := by
  cases held : value? key with
  | some value => rw [Option.some_or, Option.some_or]
  | none =>
    by_cases other : defaultBlock = block
    next =>
      subst other
      have lacking := (alters.own key).trans held
      rw [standing.shown?_absent (kept key held), (alters.standing standing).shown?_absent lacking]
    next => rw [alters.shown other]

theorem Standing.missingKeys_own (standing : document.Standing) (known : block ∈ document.sectionNames)
    (default : defaultBlock ∈ document.sectionNames) :
    exists keys, document.missingKeys block = .ok keys ∧ forall key, key ∈ keys ↔
      lowered key = key ∧ (document.own? defaultBlock key).isSome = true ∧ document.own? block key = none := by
  obtain ⟨own, listed, held⟩ := standing.keys_own known
  obtain ⟨defaults, listedDefaults, heldDefaults⟩ := standing.keys_own default
  refine ⟨defaults.filter (!own.contains ·), ?_, fun key => ?_⟩
  next =>
    unfold missingKeys
    rw [checkBlock_ok default, listed, listedDefaults]
    rfl
  next =>
    rw [List.mem_filter, heldDefaults]
    constructor
    next =>
      rintro ⟨⟨lower, present⟩, outside⟩
      have absent : ¬(document.own? block key).isSome = true := fun has => by
        have listed := (held key).2 ⟨lower, has⟩
        simp [listed] at outside
      exact ⟨lower, present, Option.not_isSome_iff_eq_none.1 absent⟩
    next =>
      rintro ⟨lower, present, absent⟩
      have outside : key ∉ own := fun listed => by
        have has := ((held key).1 listed).2
        simp [absent] at has
      exact ⟨⟨lower, present⟩, by simpa using outside⟩

end Document

namespace Manager

variable {document : Document} {manager : Manager} {parents : List String} {overrides : Entries}

theorem andThen_fault {attempt : Told Attempt} {further : Manager -> Told Attempt} :
    (andThen attempt further).result.fault = none ↔
      attempt.result.fault = none ∧ (further attempt.result.manager).result.fault = none := by
  cases done : attempt.result with
  | mk next fault =>
    cases fault with
    | none => rw [andThen_ok done]; simp
    | some fault => rw [andThen_failed done]; simp

section Steps

theorem inherit_root (root : document.ancestors manager.block = .ok []) :
    (manager.inherit document).result = ⟨document, none⟩ := by
  unfold inherit
  rw [root]
  rfl

theorem inherit_given {parent : String} {others : List String} {entries : Entries}
    (ancestors : document.ancestors manager.block = .ok (parent :: others))
    (inherits : document.inherited manager.block (parent :: others) = .ok entries) :
    (manager.inherit document).result = (Document.setAll manager.block (Document.given entries) document).result := by
  unfold inherit
  rw [ancestors]
  dsimp only
  rw [Told.result_bind, inherits]
  rfl

theorem inherit_unreadable {parent : String} {others : List String} {fault : BlockFault}
    (ancestors : document.ancestors manager.block = .ok (parent :: others))
    (inherits : document.inherited manager.block (parent :: others) = .error fault) :
    (manager.inherit document).result = ⟨document, some fault⟩ := by
  unfold inherit
  rw [ancestors]
  dsimp only
  rw [Told.result_bind, inherits]
  rfl

theorem accepted_given {block : String} {entries : Entries} (neat : entries.Neat)
    (readable : forall key, document.Readable parents key)
    (named : forall key, entries.named? key =
      if (document.own? block key).isSome = true then none else document.nearestShown? parents key) :
    (forall change, change ∈ Document.given entries -> Document.Accepted change) ↔
      forall key, document.Inherits block parents key := by
  constructor
  next =>
    intro accepted key
    refine ⟨readable key, fun absent value nearest => ?_⟩
    have listed : (lowered key, value) ∈ entries := neat.mem_iff.2 (by simpa [named, absent] using nearest)
    obtain ⟨_, ⟨⟩, plain⟩ := accepted _ (List.mem_map_of_mem listed)
    exact plain
  next =>
    intro all change member
    obtain ⟨⟨key, value⟩, listed, rfl⟩ := List.mem_map.1 member
    have lower : lowered key = key := neat.lowerKeys (key, value) listed
    have inherited := neat.mem_iff.1 (lower.symm ▸ listed)
    rw [named] at inherited
    by_cases has : (document.own? block key).isSome = true
    next =>
      rw [if_pos has] at inherited
      cases inherited
    next =>
      rw [if_neg has] at inherited
      exact ⟨value, rfl, (all key).accepted (Option.not_isSome_iff_eq_none.1 has) value inherited⟩

theorem inherit_alters (manager : Manager) (standing : document.Standing)
    (known : manager.block ∈ document.sectionNames) (follows : document.Follows manager.block parents)
    (acyclic : (manager.block :: parents).Nodup) :
    let done := (manager.inherit document).result
    (done.fault = none ↔ forall key, document.Inherits manager.block parents key) ∧
    (done.fault = none -> document.Alters manager.block
      (fun key => (document.own? manager.block key).or (document.nearestShown? parents key)) done.document) := by
  have ancestors := standing.ancestors_follows follows acyclic
  cases parents with
  | nil =>
    rw [inherit_root ancestors]
    refine ⟨iff_of_true rfl fun key => ⟨nofun, fun _ value nearest => nomatch nearest⟩, fun _ => ?_⟩
    have alone : (fun key => (document.own? manager.block key).or (document.nearestShown? [] key)) =
        document.own? manager.block := funext fun key => Option.or_none
    rw [alone]
    exact document.alters_self manager.block
  | cons parent others =>
    by_cases readable : forall key, document.Readable (parent :: others) key
    next =>
      obtain ⟨entries, inherits, neat, named⟩ := standing.inherited_shown known follows.known readable
      obtain ⟨succeeds, alters⟩ := Document.setAll_alters (standing.named _ known) known (Document.given entries)
      have values : (fun key => (Document.latest? key (Document.given entries)).or (document.own? manager.block key)) =
          fun key => (document.own? manager.block key).or (document.nearestShown? (parent :: others) key) := by
        funext key
        rw [Document.latest?_given neat, named]
        cases document.own? manager.block key <;> simp
      rw [inherit_given ancestors inherits]
      exact ⟨succeeds.trans (accepted_given neat readable named), fun done => values ▸ alters done⟩
    next =>
      cases inherits : document.inherited manager.block (parent :: others) with
      | error fault =>
        rw [inherit_unreadable ancestors inherits]
        exact ⟨iff_of_false nofun fun all => readable fun key => (all key).readable, nofun⟩
      | ok entries => exact absurd (standing.readable_of_inherited known follows.known inherits) readable

def filling (manager : Manager) (document : Document) (key : String) : Change :=
  ⟨key, document.get defaultBlock key, spoken (manager.debug && manager.verbose)
    ("Inserting default key [" ++ key ++ "] into [" ++ manager.block ++ "]")⟩

theorem fillDefaults_itself (itself : manager.block = defaultBlock) (document : Document) :
    (manager.fillDefaults document).result = ⟨document, none⟩ := by
  unfold fillDefaults
  rw [if_pos itself]
  rfl

theorem fillDefaults_missing (other : manager.block ≠ defaultBlock) {keys : List String}
    (missing : document.missingKeys manager.block = .ok keys) :
    (manager.fillDefaults document).result =
      (Document.setAll manager.block (keys.map (manager.filling document)) document).result := by
  unfold fillDefaults
  rw [if_neg other, missing]
  rfl

theorem fillDefaults_undefined (other : manager.block ≠ defaultBlock)
    (undefined : defaultBlock ∉ document.sectionNames) :
    (manager.fillDefaults document).result = ⟨document, some (.missingBlock defaultBlock)⟩ := by
  unfold fillDefaults Document.missingKeys
  rw [if_neg other, Document.checkBlock_error undefined]
  rfl

theorem latest?_filling (manager : Manager) (document : Document) {keys : List String}
    (lower : forall key, key ∈ keys -> lowered key = key) (key : String) :
    Document.latest? key (keys.map (manager.filling document)) =
      if lowered key ∈ keys then document.shown? defaultBlock key else none := by
  have latest : Document.latest? key (keys.map (manager.filling document)) =
      if keys.any (lowered · = lowered key) then document.shown? defaultBlock key else none :=
    Document.latest?_keys (document.shown?_lowered defaultBlock) key (by simp [filling, Document.shown?])
  rw [latest, if_congr (Document.any_lowered lower key) rfl rfl]

section Missing

variable {keys : List String}

theorem accepted_filling (held : forall key, key ∈ keys ↔ lowered key = key ∧
      (document.own? defaultBlock key).isSome = true ∧ document.own? manager.block key = none) :
    (forall change, change ∈ keys.map (manager.filling document) -> Document.Accepted change) ↔
      forall key, document.own? manager.block key = none -> (document.own? defaultBlock key).isSome = true ->
        exists value, document.get defaultBlock key = .ok value ∧ Reference.strayPercent? value.toList = none := by
  constructor
  next =>
    intro accepted key absent present
    have listed : lowered key ∈ keys :=
      (held _).2 ⟨lowered_lowered key, by rwa [Document.own?_lowered], by rwa [Document.own?_lowered]⟩
    have made := accepted _ (List.mem_map_of_mem listed)
    rwa [Document.Accepted, show (manager.filling document (lowered key)).value =
      document.get defaultBlock (lowered key) from rfl, Document.get_lowered] at made
  next =>
    intro all made member
    obtain ⟨key, among, rfl⟩ := List.mem_map.1 member
    obtain ⟨_, present, absent⟩ := (held key).1 among
    exact all key absent present

theorem latest?_missing (standing : document.Standing) (held : forall key, key ∈ keys ↔ lowered key = key ∧
      (document.own? defaultBlock key).isSome = true ∧ document.own? manager.block key = none) (key : String) :
    (Document.latest? key (keys.map (manager.filling document))).or (document.own? manager.block key) =
      (document.own? manager.block key).or (document.shown? defaultBlock key) := by
  rw [latest?_filling manager document fun key member => ((held key).1 member).1]
  refine Document.or_missing (fun listed => ?_) fun absent unlisted => ?_
  next =>
    have absent := ((held _).1 listed).2.2
    rwa [Document.own?_lowered] at absent
  next =>
    refine standing.shown?_absent (Option.not_isSome_iff_eq_none.1 fun present => unlisted ((held _).2 ?_))
    exact ⟨lowered_lowered key, by rwa [Document.own?_lowered], by rwa [Document.own?_lowered]⟩

end Missing

theorem fillDefaults_alters (manager : Manager) (standing : document.Standing)
    (known : manager.block ∈ document.sectionNames) :
    let done := (manager.fillDefaults document).result
    (done.fault = none ↔ defaultBlock ∈ document.sectionNames ∧ forall key, document.own? manager.block key = none ->
      (document.own? defaultBlock key).isSome = true ->
        exists value, document.get defaultBlock key = .ok value ∧ Reference.strayPercent? value.toList = none) ∧
    (done.fault = none -> document.Alters manager.block
      (fun key => (document.own? manager.block key).or (document.shown? defaultBlock key)) done.document) := by
  by_cases itself : manager.block = defaultBlock
  next =>
    have own : (fun key => (document.own? manager.block key).or (document.shown? defaultBlock key)) =
        document.own? manager.block := by
      funext key
      cases here : document.own? manager.block key with
      | some value => rfl
      | none => exact standing.shown?_absent (itself ▸ here)
    rw [fillDefaults_itself itself, own]
    refine ⟨iff_of_true rfl ⟨itself ▸ known, fun key absent present => ?_⟩, fun _ =>
      document.alters_self manager.block⟩
    rw [← itself, absent] at present
    cases present
  next =>
    by_cases default : defaultBlock ∈ document.sectionNames
    next =>
      obtain ⟨keys, missing, held⟩ := standing.missingKeys_own known default
      obtain ⟨succeeds, alters⟩ := Document.setAll_alters (standing.named _ known) known
        (keys.map (manager.filling document))
      rw [fillDefaults_missing itself missing]
      exact ⟨(succeeds.trans (accepted_filling held)).trans (and_iff_right default).symm,
        fun done => funext (latest?_missing standing held) ▸ alters done⟩
    next =>
      rw [fillDefaults_undefined itself default]
      exact ⟨iff_of_false nofun fun both => default both.1, nofun⟩

def allowed (overrides : Entries) : Entries :=
  overrides.filter (!fixedKeys.contains ·.1)

theorem overrideChanges_entries (manager : Manager) (overrides : Entries) (before : List Event) :
    (manager.overrideChanges overrides before).1.map (fun change => (change.key, change.value)) =
      (allowed overrides).map fun entry => (entry.1, .ok entry.2) := by
  induction overrides generalizing before with
  | nil => rfl
  | cons entry rest ih =>
    obtain ⟨key, value⟩ := entry
    unfold overrideChanges allowed
    by_cases fixed : fixedKeys.contains key = true
    next =>
      rw [if_pos fixed, List.filter_cons_of_neg (by simpa using fixed)]
      exact ih _
    next =>
      rw [if_neg fixed, List.filter_cons_of_pos (by simpa using fixed), List.map_cons]
      exact congrArg ((key, .ok value) :: ·) (ih [])

def Acceptable (overrides : Entries) : Prop :=
  forall entry, entry ∈ allowed overrides -> Reference.strayPercent? entry.2.toList = none

theorem applyOverrides_alters (manager : Manager) (held : manager.document = some document)
    (ordinary : manager.block ≠ "" ∧ manager.block ≠ fallbackName) (known : manager.block ∈ document.sectionNames)
    (overrides : Entries) :
    let done := (manager.applyOverrides overrides).result
    (done.fault = none ↔ Acceptable overrides) ∧
    (done.fault = none -> exists changed, done = ⟨{ manager with document := some changed }, none⟩ ∧
      document.Alters manager.block
        (fun key => ((allowed overrides).last? key).or (document.own? manager.block key)) changed) := by
  have entries := manager.overrideChanges_entries overrides []
  obtain ⟨succeeds, alters⟩ := Document.setAll_alters ordinary known (manager.overrideChanges overrides []).1
  have values : (fun key => (Document.latest? key (manager.overrideChanges overrides []).1).or
      (document.own? manager.block key)) =
      fun key => ((allowed overrides).last? key).or (document.own? manager.block key) := by
    funext key
    rw [Document.latest?_entries key entries]
  have accepted : (forall change, change ∈ (manager.overrideChanges overrides []).1 -> Document.Accepted change) ↔
      Acceptable overrides := by
    have pairs : (forall change, change ∈ (manager.overrideChanges overrides []).1 -> Document.Accepted change) ↔
        forall pair, pair ∈ (manager.overrideChanges overrides []).1.map (fun change => (change.key, change.value)) ->
          exists value, pair.2 = .ok value ∧ Reference.strayPercent? value.toList = none := by
      rw [List.forall_mem_map]
      rfl
    rw [pairs, entries, List.forall_mem_map]
    refine forall₂_congr fun entry _ => ⟨?_, fun plain => ⟨_, rfl, plain⟩⟩
    rintro ⟨_, ⟨⟩, plain⟩
    exact plain
  rw [accepted] at succeeds
  dsimp only
  unfold applyOverrides documentOrEmpty
  rw [held, Option.getD_some, Told.result_bind, Told.result_bind]
  cases done : (Document.setAll manager.block (manager.overrideChanges overrides []).1 document).result with
  | mk changed fault =>
    rw [done] at succeeds alters
    cases fault with
    | none => exact ⟨iff_of_true rfl (succeeds.1 rfl), fun _ => ⟨changed, rfl, values ▸ alters rfl⟩⟩
    | some fault => exact ⟨iff_of_false nofun (mt succeeds.2 nofun), nofun⟩

theorem step_result (change : Manager -> Document -> Told Changed) (held : manager.document = some document) :
    (step change manager).result =
      ⟨{ manager with document := some (change manager document).result.document },
        (change manager document).result.fault.map .block⟩ := by
  unfold step documentOrEmpty
  rw [held, Option.getD_some, Told.result_bind]
  rfl

end Steps

section Settling

def settle (overrides : Entries) (manager : Manager) : Told Attempt :=
  andThen (andThen (step inherit manager) (step fillDefaults)) (applyOverrides · overrides)

theorem complete_eq_settle (environment : Environment) (manager : Manager) (overrides : Entries) :
    manager.complete environment overrides = andThen (manager.settle overrides) (readExplanations environment) :=
  rfl

theorem supply_alters (manager : Manager) (standing : document.Standing) (held : manager.document = some document)
    (known : manager.block ∈ document.sectionNames) (follows : document.Follows manager.block parents)
    (acyclic : (manager.block :: parents).Nodup) :
    let done := (andThen (step inherit manager) (step fillDefaults)).result
    (done.fault = none ↔ defaultBlock ∈ document.sectionNames ∧
      forall key, document.Copies manager.block parents key) ∧
    (done.fault = none -> exists filled, done = ⟨{ manager with document := some filled }, none⟩ ∧
      document.Alters manager.block (fun key => (document.own? manager.block key).or
        ((document.nearestShown? parents key).or (document.shown? defaultBlock key))) filled) := by
  obtain ⟨inheritsIff, inherits⟩ := inherit_alters manager standing known follows acyclic
  have first := step_result inherit held
  dsimp only
  cases inheriting : (manager.inherit document).result with
  | mk inherited fault =>
    rw [inheriting] at inheritsIff inherits first
    cases fault with
    | some fault =>
      rw [andThen_failed first]
      refine ⟨iff_of_false nofun fun all => ?_, nofun⟩
      cases inheritsIff.2 fun key => (all.2 key).inherits standing
    | none =>
      -- What has been inherited counts as the block's own when the defaults are filled in.
      have alters := inherits rfl
      let next : Manager := { manager with document := some inherited }
      obtain ⟨fillsIff, fills⟩ := fillDefaults_alters next (alters.standing standing) (alters.names ▸ known)
      have second : (step fillDefaults next).result = _ := step_result fillDefaults rfl
      have copies : (forall key, document.Copies manager.block parents key) ↔
          forall key, inherited.own? manager.block key = none -> (inherited.own? defaultBlock key).isSome = true ->
            exists value, inherited.get defaultBlock key = .ok value ∧
              Reference.strayPercent? value.toList = none :=
        forall_congr' fun key => (standing.copies_iff alters).trans (and_iff_right (inheritsIff.1 rfl key))
      rw [andThen_ok first, second, copies, ← alters.names]
      cases filling : (next.fillDefaults inherited).result with
      | mk filled fault =>
        rw [filling] at fillsIff fills
        refine ⟨Option.map_eq_none_iff.trans fillsIff, fun done => ?_⟩
        obtain rfl := Option.map_eq_none_iff.1 done
        have values : (fun key => (inherited.own? manager.block key).or (inherited.shown? defaultBlock key)) =
            fun key => (document.own? manager.block key).or
              ((document.nearestShown? parents key).or (document.shown? defaultBlock key)) := by
          funext key
          have same := standing.or_shown?_default alters key fun key lacking => (Option.or_eq_none_iff.1 lacking).1
          rw [alters.own, same, Option.or_assoc]
        exact ⟨filled, rfl, values ▸ alters.trans (fills rfl)⟩

theorem settle_alters (manager : Manager) (standing : document.Standing) (held : manager.document = some document)
    (known : manager.block ∈ document.sectionNames) (follows : document.Follows manager.block parents)
    (acyclic : (manager.block :: parents).Nodup) (overrides : Entries) :
    let done := (manager.settle overrides).result
    (done.fault = none ↔ defaultBlock ∈ document.sectionNames ∧
      (forall key, document.Copies manager.block parents key) ∧ Acceptable overrides) ∧
    (done.fault = none -> exists loaded, done = ⟨{ manager with document := some loaded }, none⟩ ∧
      document.Alters manager.block (fun key => ((allowed overrides).last? key).or
        ((document.own? manager.block key).or ((document.nearestShown? parents key).or
          (document.shown? defaultBlock key)))) loaded) := by
  obtain ⟨suppliesIff, supplies⟩ := supply_alters manager standing held known follows acyclic
  dsimp only
  unfold settle
  cases supplying : (andThen (step inherit manager) (step fillDefaults)).result with
  | mk supplied fault =>
    rw [supplying] at suppliesIff supplies
    cases fault with
    | some fault =>
      rw [andThen_failed supplying]
      refine ⟨iff_of_false nofun fun all => ?_, nofun⟩
      cases suppliesIff.2 ⟨all.1, all.2.1⟩
    | none =>
      obtain ⟨filled, reached, alters⟩ := supplies rfl
      cases reached
      let last : Manager := { manager with document := some filled }
      obtain ⟨overridesIff, overriding⟩ := applyOverrides_alters last rfl (standing.named _ known)
        (alters.names ▸ known) overrides
      rw [andThen_ok supplying]
      refine ⟨overridesIff.trans ?_, fun done => ?_⟩
      next =>
        rw [← and_assoc]
        exact (and_iff_right (suppliesIff.1 rfl)).symm
      next =>
        obtain ⟨loaded, reached, altersLast⟩ := overriding done
        have values : (fun key => ((allowed overrides).last? key).or (filled.own? last.block key)) =
            fun key => ((allowed overrides).last? key).or ((document.own? manager.block key).or
              ((document.nearestShown? parents key).or (document.shown? defaultBlock key))) := by
          funext key
          rw [alters.own]
        exact ⟨loaded, reached, values ▸ alters.trans altersLast⟩

end Settling

end Manager

end SpokenArithmetic.Settings
