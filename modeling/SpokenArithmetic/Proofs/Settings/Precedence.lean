import SpokenArithmetic.Proofs.Settings.Copied
import SpokenArithmetic.Proofs.Settings.Parsed

set_option autoImplicit false

namespace SpokenArithmetic.Settings

open Text

namespace Document

variable {document : Document} {block : String}

theorem nearest?_cons (document : Document) (name : String) (blocks : List String) (key : String) :
    document.nearest? (name :: blocks) key = (document.own? name key).or (document.nearest? blocks key) := by
  unfold nearest?
  rw [List.findSome?_cons]
  cases document.own? name key <;> rfl

theorem nearest?_nil (document : Document) (key : String) : document.nearest? [] key = none :=
  rfl

theorem nearest?_append (document : Document) (nearer farther : List String) (key : String) :
    document.nearest? (nearer ++ farther) key = (document.nearest? nearer key).or (document.nearest? farther key) :=
  List.findSome?_append

theorem Plain.copies (plain : document.Plain) (block : String) (parents : List String) (key : String) :
    document.Copies block parents key where
  readable := plain.readable parents key
  accepted _ source first := by
    obtain ⟨value, own⟩ := Option.isSome_iff_exists.1 (own?_of_source? first).2
    exact ⟨value, plain.get_own own, Reference.strayPercent?_unmarked (plain.unmarked_own? own)⟩

end Document

namespace Manager

variable {document : Document} {manager : Manager} {parents : List String} {overrides : Entries}

section Loading

variable {environment : Environment} {path : String} {block : String}

/-- The value that counts: an override before what the nearest block has. -/
def counting? (document : Document) (overrides : Entries) (blocks : List String) (key : String) : Option String :=
  ((allowed overrides).named? key).or (document.nearest? blocks key)

/-- What a block needs to be loaded: it and the block `default` are there, its ancestors are there and none comes
twice, and overrides hold no references and none is of the key of another one. -/
structure Loadable (document : Document) (block : String) (parents : List String) (overrides : Entries) : Prop where
  known : block ∈ document.sectionNames
  default : defaultBlock ∈ document.sectionNames
  descends : document.Descends block parents
  acyclic : (block :: parents).Nodup
  distinct : ((allowed overrides).map fun entry => lowered entry.1).Nodup
  unmarked : forall entry, entry ∈ allowed overrides -> Unmarked entry.2

theorem counting?_unmarked (plain : document.Plain)
    (unmarked : forall entry, entry ∈ allowed overrides -> Unmarked entry.2) {blocks : List String}
    {key value : String} (counts : counting? document overrides blocks key = some value) : Unmarked value := by
  rcases Option.or_eq_some_iff.1 counts with overridden | ⟨_, nearest⟩
  next =>
    obtain ⟨entry, found, rfl⟩ := Option.map_eq_some_iff.1 overridden
    exact unmarked entry (List.mem_of_find?_eq_some found)
  next =>
    obtain ⟨name, _, own⟩ := List.exists_of_findSome?_eq_some nearest
    exact plain.unmarked_own? own

theorem complete_counting (environment : Environment) (manager : Manager) (plain : document.Plain)
    (loadable : Loadable document manager.block parents overrides) (held : manager.document = some document) :
    exists loaded : Document, loaded.Standing ∧ loaded.sectionNames = document.sectionNames ∧
      (forall key, loaded.own? manager.block key =
        counting? document overrides (manager.block :: parents ++ [defaultBlock]) key) ∧
      (manager.complete environment overrides).result =
        (({ manager with document := some loaded } : Manager).readExplanations environment).result := by
  obtain ⟨known, default, descends, acyclic, distinct, unmarked⟩ := loadable
  obtain ⟨succeeds, settles⟩ :=
    settle_alters manager plain.toStanding held known (plain.follows descends) acyclic overrides
  have accepted : Acceptable overrides := fun entry member => Reference.strayPercent?_unmarked (unmarked entry member)
  obtain ⟨loaded, settled, alters⟩ := settles (succeeds.2 ⟨default, plain.copies manager.block parents, accepted⟩)
  refine ⟨loaded, alters.standing plain.toStanding, alters.names, fun key => ?_, andThen_ok settled⟩
  rw [alters.own, Entries.last?_of_distinct distinct, plain.nearestShown?_own, plain.shown?_own, counting?,
    List.cons_append, Document.nearest?_cons, Document.nearest?_append, Document.nearest?_cons _ defaultBlock,
    Document.nearest?_nil, Option.or_none]

end Loading

section Showing

variable {key value : String} {blocks : List String}

theorem toKind_string (value : Value) : value.toKind "string" = .ok value := by
  have named : Kind.ofName? (lowered "string") = some .text := by decide +kernel
  unfold Value.toKind
  rw [named]

theorem get_present (has : manager.has key = .ok true) (text : manager.text key = .ok value) (default : Option Value)
    (silent : Bool) : (manager.get key default silent "string").run.result = .ok (.text value) := by
  unfold get
  rw [has, text]
  simp only [toKind_string]
  rfl

theorem get_absent (has : manager.has key = .ok false) :
    (manager.get key none true "string").run.result = .ok .null := by
  unfold get
  rw [has]
  rfl

theorem text_of_get (given : (manager.get key none true "string").run.result = .ok (.text value)) :
    manager.has key = .ok true ∧ manager.text key = .ok value := by
  cases has : manager.has key with
  | error fault =>
    unfold get at given
    rw [has] at given
    cases given
  | ok present =>
    cases present with
    | false =>
      rw [get_absent has] at given
      cases given
    | true =>
      cases text : manager.text key with
      | error fault =>
        unfold get at given
        rw [has, text] at given
        cases given
      | ok found =>
        rw [get_present has text] at given
        cases given
        exact ⟨rfl, rfl⟩

theorem get_kind (has : manager.has key = .ok true) (text : manager.text key = .ok value) (default : Option Value)
    (silent : Bool) (kind : String) :
    (manager.get key default silent kind).run.result = ((Value.text value).toKind kind).mapError .kind := by
  unfold get
  rw [has, text]
  rfl

/-- A manager shows what some overrides and blocks have, the nearest block first: their keys, with the values that
count, and nothing else. -/
structure Shows (manager : Manager) (document : Document) (overrides : Entries) (blocks : List String) : Prop where
  keys : exists keys, manager.keys = .ok keys ∧ forall key, key ∈ keys ↔
    (exists entry, entry ∈ allowed overrides ∧ lowered entry.1 = key) ∨
      exists name, name ∈ blocks ∧ exists own, document.keys name = .ok own ∧ key ∈ own
  value : forall key value, counting? document overrides blocks key = some value -> forall default silent,
    (manager.get key default silent "string").run.result = .ok (.text value)
  absent : forall key, counting? document overrides blocks key = none ->
    (manager.get key none true "string").run.result = .ok .null

theorem counting?_isSome (document : Document) (overrides : Entries) (blocks : List String) (key : String) :
    (counting? document overrides blocks key).isSome = true ↔
      (exists entry, entry ∈ allowed overrides ∧ lowered entry.1 = lowered key) ∨
        exists name, name ∈ blocks ∧ (document.own? name key).isSome = true := by
  unfold counting? Entries.named? Document.nearest?
  rw [Option.isSome_or, Bool.or_eq_true, Option.isSome_map, List.find?_isSome, List.findSome?_isSome_iff]
  simp

theorem shows_of_own {loaded : Document} (standing : loaded.Standing) (holds : manager.document = some loaded)
    (member : manager.block ∈ loaded.sectionNames) (plain : document.Plain)
    (unmarked : forall entry, entry ∈ allowed overrides -> Unmarked entry.2)
    (known : forall name, name ∈ blocks -> name ∈ document.sectionNames)
    (own : forall key, loaded.own? manager.block key = counting? document overrides blocks key) :
    manager.Shows document overrides blocks := by
  have itself : manager.documentOrEmpty = loaded := by rw [documentOrEmpty, holds, Option.getD_some]
  obtain ⟨keys, listed, held⟩ := standing.keys_own member
  have keysListed : manager.keys = .ok keys := by
    unfold Manager.keys
    rw [itself, listed]
    rfl
  have has (key : String) : manager.has key = .ok (counting? document overrides blocks key).isSome := by
    have contained : keys.contains (lowered key) = (counting? document overrides blocks key).isSome := by
      rw [Bool.eq_iff_iff, List.contains_iff_mem, held, Document.own?_lowered, own]
      exact and_iff_right (lowered_lowered key)
    unfold Manager.has
    rw [keysListed]
    exact congrArg Except.ok contained
  refine ⟨⟨keys, keysListed, fun key => ?_⟩, fun key value counts default silent => ?_, fun key none => ?_⟩
  next =>
    rw [held, own, counting?_isSome]
    constructor
    next =>
      rintro ⟨lower, ⟨entry, among, same⟩ | ⟨name, listed, present⟩⟩
      next => exact .inl ⟨entry, among, same.trans lower⟩
      next =>
        obtain ⟨others, listedOthers, heldOthers⟩ := plain.keys_own (known name listed)
        exact .inr ⟨name, listed, others, listedOthers, (heldOthers key).2 ⟨lower, present⟩⟩
    next =>
      rintro (⟨entry, among, rfl⟩ | ⟨name, listed, others, listedOthers, among⟩)
      next => exact ⟨lowered_lowered _, .inl ⟨entry, among, (lowered_lowered _).symm⟩⟩
      next =>
        obtain ⟨again, listedAgain, heldAgain⟩ := plain.keys_own (known name listed)
        rw [listedOthers] at listedAgain
        cases listedAgain
        obtain ⟨lower, present⟩ := (heldAgain key).1 among
        exact ⟨lower, .inr ⟨name, listed, present⟩⟩
  next =>
    refine get_present (by rw [has, counts]; rfl) ?_ default silent
    unfold Manager.text
    rw [itself, standing.get_unmarked ((own key).trans counts) (counting?_unmarked plain unmarked counts)]
    rfl
  next => exact get_absent (by rw [has, none]; rfl)

end Showing

section Main

variable {environment : Environment} {path explanationsPath block : String}

structure Provided (environment : Environment) (path explanationsPath : String) (document : Document) : Prop where
  settings : exists text, environment.file? path = some text ∧ Document.parse path text = .ok document
  alone : document.fallback = []
  unmarked : forall found, found ∈ document.sections -> forall entry, entry ∈ found.2 -> Unmarked entry.2
  explanations : exists text, environment.file? explanationsPath = some text

theorem Provided.plain (provided : Provided environment path explanationsPath document) : document.Plain := by
  obtain ⟨text, _, parsed⟩ := provided.settings
  exact ⟨Document.standing_of_parse parsed provided.alone, fun name entries => provided.unmarked (name, entries)⟩

def Explained (environment : Environment) (explanationsPath : String) : Prop :=
  exists text explanations, environment.file? explanationsPath = some text ∧
    Document.parse explanationsPath text = .ok explanations

theorem readExplanations_cases (manager : Manager)
    (found : exists text, environment.file? manager.explanationsPath = some text) :
    (Explained environment manager.explanationsPath ∧
      exists explanations, (manager.readExplanations environment).result =
        ⟨{ manager with explanations := some explanations }, none⟩) ∨
    (¬Explained environment manager.explanationsPath ∧
      exists fault, (manager.readExplanations environment).result = ⟨manager, some fault⟩) := by
  obtain ⟨text, found⟩ := found
  unfold readExplanations
  dsimp only
  rw [found, Option.getD_some]
  cases parsed : Document.parse manager.explanationsPath text with
  | ok explanations => exact .inl ⟨⟨text, explanations, found, parsed⟩, explanations, rfl⟩
  | error fault =>
    refine .inr ⟨?_, .unreadable fault, rfl⟩
    rintro ⟨again, explanations, foundAgain, parsedAgain⟩
    rw [found] at foundAgain
    cases foundAgain
    rw [parsed] at parsedAgain
    cases parsedAgain

structure Placed (path explanationsPath : String) (manager : Manager) : Prop where
  path : manager.path = path
  explanationsPath : manager.explanationsPath = explanationsPath

structure Settled (path explanationsPath block : String) (document : Document) (overrides : Entries)
    (blocks : List String) (manager : Manager) : Prop where
  placed : manager.Placed path explanationsPath
  block : manager.block = block
  shows : manager.Shows document overrides blocks

theorem load_settled (provided : Provided environment manager.path manager.explanationsPath document)
    (asked : Option String) (loadable : Loadable document (asked.getD manager.block) parents overrides) :
    ((manager.load environment asked overrides).result.fault = none ↔
      Explained environment manager.explanationsPath) ∧
    (manager.load environment asked overrides).result.manager.Settled manager.path manager.explanationsPath
      (asked.getD manager.block) document overrides (asked.getD manager.block :: parents ++ [defaultBlock]) := by
  obtain ⟨text, found, parsed⟩ := provided.settings
  obtain ⟨explanation, foundExplanation⟩ := provided.explanations
  obtain ⟨loaded, standing, names, own, completed⟩ :=
    complete_counting environment (manager.aimed asked document) provided.plain loadable rfl
  have known : forall name, name ∈ asked.getD manager.block :: parents ++ [defaultBlock] ->
      name ∈ document.sectionNames := by
    intro name member
    rcases List.mem_append.1 member with chain | last
    next =>
      rcases List.mem_cons.1 chain with rfl | later
      next => exact loadable.known
      next => exact (provided.plain.follows loadable.descends).known name later
    next => exact List.mem_singleton.1 last ▸ loadable.default
  have shown (reached : Manager) (block : reached.block = asked.getD manager.block)
      (holds : reached.document = some loaded) :
      reached.Shows document overrides (asked.getD manager.block :: parents ++ [defaultBlock]) := by
    refine shows_of_own standing holds ?_ provided.plain loadable.unmarked known fun key => ?_
    next => exact block ▸ names ▸ loadable.known
    next => exact (congrArg (loaded.own? · key) block).trans (own key)
  rw [load_known manager found foundExplanation parsed loadable.known, completed]
  let last : Manager := { manager.aimed asked document with document := some loaded }
  rcases readExplanations_cases last ⟨explanation, foundExplanation⟩ with
    ⟨explained, explanations, read⟩ | ⟨unexplained, fault, read⟩
  next => exact read ▸ ⟨iff_of_true rfl explained, ⟨rfl, rfl⟩, rfl, shown _ rfl rfl⟩
  next => exact read ▸ ⟨iff_of_false nofun unexplained, ⟨rfl, rfl⟩, rfl, shown _ rfl rfl⟩

theorem obtain_result {shared : Shared} {parameters : Parameters} {blank : Manager}
    (dropped : shared.current? = none) (prepared : (prepare environment parameters).run.result = .ok (blank, overrides)) :
    (shared.obtain environment parameters).result =
      match (blank.load environment none overrides).result with
      | ⟨manager, none⟩ => (.ok manager, shared.hold manager)
      | ⟨_, some fault⟩ => (.error fault, shared) := by
  have made : (make environment parameters).run.result =
      (blank.load environment none overrides).result.fault.elim
        (.ok (blank.load environment none overrides).result.manager) .error := by
    unfold make
    rw [ExceptT.run_bind, Told.result_bind, prepared]
    rfl
  unfold Shared.obtain
  rw [dropped]
  dsimp only
  rw [Told.result_bind, made]
  cases (blank.load environment none overrides).result with
  | mk manager fault => cases fault <;> rfl

/-- Settings take precedence in this order, however a block comes to be loaded: by a manager in whatever state it is,
or by one that is made because there is none. -/
theorem loaded_shows (provided : Provided environment path explanationsPath document)
    (loadable : Loadable document block parents overrides) :
    (forall manager asked, Placed path explanationsPath manager -> asked.getD manager.block = block ->
      let attempt := (manager.load environment asked overrides).result
      (attempt.fault = none ↔ Explained environment explanationsPath) ∧
      attempt.manager.Settled path explanationsPath block document overrides
        (block :: parents ++ [defaultBlock])) ∧
    forall shared : Shared, forall parameters blank, shared.current? = none ->
      (prepare environment parameters).run.result = .ok (blank, overrides) ->
      Placed path explanationsPath blank -> blank.block = block ->
      let reply := (shared.obtain environment parameters).result
      ((exists manager, reply.1 = .ok manager) ↔ Explained environment explanationsPath) ∧
      forall manager, reply.1 = .ok manager -> reply.2.current? = some manager ∧
        manager.Settled path explanationsPath block document overrides (block :: parents ++ [defaultBlock]) := by
  constructor
  next =>
    rintro manager asked ⟨rfl, rfl⟩ rfl
    exact load_settled provided asked loadable
  next =>
    rintro shared parameters blank dropped prepared ⟨rfl, rfl⟩ rfl
    obtain ⟨succeeds, settled⟩ := load_settled provided none loadable
    rw [obtain_result dropped prepared]
    cases attempt : (blank.load environment none overrides).result with
    | mk made fault =>
      rw [attempt] at succeeds settled
      cases fault with
      | none =>
        refine ⟨iff_of_true ⟨made, rfl⟩ (succeeds.1 rfl), ?_⟩
        rintro manager ⟨⟩
        exact ⟨rfl, settled⟩
      | some fault =>
        refine ⟨iff_of_false ?_ fun explained => ?_, ?_⟩
        next => rintro ⟨manager, ⟨⟩⟩
        next => cases succeeds.2 explained
        next => rintro manager ⟨⟩

end Main

section Office

def officeSettings : String :=
  "[default]\nunit = km\n[base]\ntone = red\n[desk]\ninherits = base\nTone = blue\n"

def officeDocument : Document :=
  { fallback := []
    sections := [("default", [("unit", "km")]), ("base", [("tone", "red")]),
      ("desk", [("inherits", "base"), ("tone", "blue")])] }

-- The file of the settings stands in for that of the explanations.
def office : Environment :=
  { files := [("office.ini", officeSettings)], directories := [], bindings := [], home := "/home"
    directory := "/work" }

theorem officeSettings_found : office.file? "office.ini" = some officeSettings := by
  unfold Environment.file?
  rw [if_neg (by decide +kernel)]
  simp [office]

theorem officeSettings_parsed : Document.parse "office.ini" officeSettings = .ok officeDocument :=
  rfl

theorem office_provided : Provided office "office.ini" "office.ini" officeDocument where
  settings := ⟨_, officeSettings_found, officeSettings_parsed⟩
  alone := rfl
  unmarked := by decide
  explanations := ⟨_, officeSettings_found⟩

theorem office_explained : Explained office "office.ini" :=
  ⟨_, _, officeSettings_found, officeSettings_parsed⟩

def deskParameters : Parameters :=
  { path := some "office.ini", explanationsPath := some "office.ini", block := "desk"
    overrides := [("config_path", "elsewhere.ini"), ("Unit", "mile")] }

theorem desk_loadable : Loadable officeDocument "desk" ["base"] deskParameters.overrides where
  known := by decide
  default := by decide
  descends := .child (show officeDocument.own? "desk" parentKey = some "base" by decide) (by decide)
    (.root (by decide))
  acyclic := by decide
  distinct := by decide
  unmarked := by decide

theorem base_loadable : Loadable officeDocument "base" [] [] where
  known := by decide
  default := by decide
  descends := .root (by decide)
  acyclic := by decide
  distinct := by decide
  unmarked := nofun

theorem loaded_shows_office :
    exists manager, (Shared.none.obtain office deskParameters).result.1 = .ok manager ∧
      (manager.get "UNIT" none false "string").run.result = .ok (.text "mile") ∧
      (manager.get "tone" none false "string").run.result = .ok (.text "blue") ∧
      (manager.load office (some "base") []).result.fault = none ∧
      ((manager.load office (some "base") []).result.manager.get "unit" none false "string").run.result =
        .ok (.text "km") ∧
      ((manager.load office (some "base") []).result.manager.get "tone" none false "string").run.result =
        .ok (.text "red") := by
  obtain ⟨made, shown⟩ :=
    (loaded_shows office_provided desk_loadable).2 Shared.none deskParameters _ rfl rfl ⟨rfl, rfl⟩ rfl
  obtain ⟨manager, handed⟩ := made.2 office_explained
  obtain ⟨_, desk⟩ := shown manager handed
  obtain ⟨succeeds, base⟩ := (loaded_shows office_provided base_loadable).1 manager (some "base") desk.placed rfl
  refine ⟨manager, handed, ?_, ?_, succeeds.2 office_explained, ?_, ?_⟩
  next => exact desk.shows.value "UNIT" "mile" (by decide +kernel) none false
  next => exact desk.shows.value "tone" "blue" (by decide +kernel) none false
  next => exact base.shows.value "unit" "km" (by decide +kernel) none false
  next => exact base.shows.value "tone" "red" (by decide +kernel) none false

end Office

end Manager

end SpokenArithmetic.Settings
