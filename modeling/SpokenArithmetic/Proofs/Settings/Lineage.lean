import Mathlib.Data.List.Nodup
import Mathlib.Data.List.Perm.Subperm
import SpokenArithmetic.Proofs.Settings.Standing

set_option autoImplicit false

namespace SpokenArithmetic.Settings

open Text

namespace Document

variable {document : Document} {block parent name key value : String} {names others passed parents : List String}

section Holding

def held? (document : Document) (name key : String) : Option String :=
  (document.section? name).bind (document.raw? · (lowered key))

theorem raw?_eq (document : Document) (entries : Entries) (key : String) :
    document.raw? entries key = (entries.find? key).or (document.fallback.find? key) := by
  unfold raw?
  cases entries.find? key <;> rfl

theorem hasKey_held (document : Document) (name key : String) :
    document.hasKey name key = (document.held? name key).isSome := by
  unfold hasKey held?
  cases document.section? name <;> rfl

theorem get_held (held : document.held? name key = some value) (unmarked : Unmarked value) :
    document.get name key = .ok value := by
  obtain ⟨entries, found, raw⟩ := Option.bind_eq_some_iff.1 held
  exact (get_ok_iff found raw).2 ((Reference.reads_unmarked unmarked).2 rfl)

theorem section_of_held (held : document.held? name key = some value) : name ∈ document.sectionNames := by
  obtain ⟨entries, found, _⟩ := Option.bind_eq_some_iff.1 held
  exact section?_isSome_iff.1 (found ▸ rfl)

theorem unmarked_of_entries (fallback : forall entry, entry ∈ document.fallback -> Unmarked entry.2)
    (sections : forall found, found ∈ document.sections -> forall entry, entry ∈ found.2 -> Unmarked entry.2)
    (held : document.held? name key = some value) : Unmarked value := by
  obtain ⟨entries, found, raw⟩ := Option.bind_eq_some_iff.1 held
  rw [raw?_eq] at raw
  rcases Option.or_eq_some_iff.1 raw with own | ⟨_, fallen⟩
  next => exact sections _ (mem_of_section? found) _ (Entries.mem_of_find? own)
  next => exact fallback _ (Entries.mem_of_find? fallen)

end Holding

section Walking

def parentName? (document : Document) (block : String) : Option String :=
  (document.held? block parentKey).map stripped

inductive Walk (document : Document) : String -> List String -> Prop where
  | start {block : String} : Walk document block []
  | step {block parent : String} {names : List String} (named : document.parentName? block = some parent)
    (rest : Walk document parent names) : Walk document block (parent :: names)

def Rests (document : Document) (block : String) (names : List String) : Prop :=
  document.parentName? (names.getLastD block) = none

theorem parentName?_absent (absent : name ∉ document.sectionNames) : document.parentName? name = none := by
  cases held : document.held? name parentKey with
  | none => rw [parentName?, held, Option.map_none]
  | some value => exact absurd (section_of_held held) absent

theorem walk_append :
    document.Walk block (names ++ others) ↔
      document.Walk block names ∧ document.Walk (names.getLastD block) others := by
  induction names generalizing block with
  | nil => exact (and_iff_right .start).symm
  | cons parent names ih =>
    rw [List.cons_append, List.getLastD_cons]
    constructor
    next =>
      rintro (_ | ⟨named, rest⟩)
      exact ⟨.step named (ih.1 rest).1, (ih.1 rest).2⟩
    next =>
      rintro ⟨_ | ⟨named, rest⟩, further⟩
      exact .step named (ih.2 ⟨rest, further⟩)

theorem walk_snoc :
    document.Walk block (names ++ [name]) ↔
      document.Walk block names ∧ document.parentName? (names.getLastD block) = some name := by
  refine walk_append.trans (and_congr_right fun _ => ⟨?_, fun named => .step named .start⟩)
  rintro (_ | ⟨named, _⟩)
  exact named

theorem Walk.comparable (walk : document.Walk block names) (other : document.Walk block others) :
    names <+: others ∨ others <+: names := by
  induction walk generalizing others with
  | start => exact .inl List.nil_prefix
  | @step block parent names named _ ih =>
    cases other with
    | start => exact .inr List.nil_prefix
    | step namedOther rest =>
      obtain rfl := Option.some.inj (named.symm.trans namedOther)
      exact (ih rest).imp (List.prefix_cons_inj parent).2 (List.prefix_cons_inj parent).2

theorem Walk.within (other : document.Walk block others) (walk : document.Walk block names)
    (rests : document.Rests block names) : others <+: names := by
  rcases walk.comparable other with ⟨further, rfl⟩ | within
  next =>
    cases (walk_append.1 other).2 with
    | start => exact ⟨[], by simp⟩
    | step named _ =>
      rw [Rests] at rests
      rw [rests] at named
      cases named
  next => exact within

theorem Walk.inside {blocks : List String}
    (closed : forall first next, first ∈ blocks -> document.parentName? first = some next -> next ∈ blocks)
    (walk : document.Walk block names) (begins : block ∈ blocks) : forall name, name ∈ names -> name ∈ blocks := by
  induction walk with
  | start => exact nofun
  | step named _ ih =>
    have next := closed _ _ begins named
    exact List.forall_mem_cons.2 ⟨next, ih next⟩

theorem Walk.leads (walk : document.Walk block (passed ++ [name])) :
    forall first, first ∈ block :: passed ->
      exists next, document.parentName? first = some next ∧ next ∈ passed ++ [name] := by
  induction passed generalizing block with
  | nil =>
    obtain _ | ⟨named, _⟩ := walk
    intro first member
    obtain rfl := List.mem_singleton.1 member
    exact ⟨name, named, List.mem_singleton_self name⟩
  | cons parent passed ih =>
    obtain _ | ⟨named, rest⟩ := walk
    refine List.forall_mem_cons.2 ⟨⟨parent, named, List.mem_cons_self⟩, fun first member => ?_⟩
    obtain ⟨next, further, among⟩ := ih rest first member
    exact ⟨next, further, List.mem_cons_of_mem parent among⟩

end Walking

section Searching

def ParentsUnmarked (document : Document) : Prop :=
  forall name value, document.held? name parentKey = some value -> Unmarked value

theorem parent?_none (orphan : document.parentName? block = none) : document.parent? block = .ok none := by
  have absent : ¬document.hasKey block parentKey = true := by
    rw [hasKey_held, Option.map_eq_none_iff.1 orphan]
    exact nofun
  rw [parent?, if_neg absent]
  rfl

theorem parent?_some (unmarked : document.ParentsUnmarked) (named : document.parentName? block = some parent) :
    document.parent? block = (document.checkBlock parent).bind fun _ => .ok (some parent) := by
  obtain ⟨value, held, rfl⟩ := Option.map_eq_some_iff.1 named
  have present : document.hasKey block parentKey = true := by
    rw [hasKey_held, held]
    rfl
  rw [parent?, if_pos present, get_held held (unmarked _ _ held)]
  rfl

/-- How a walk from a block turns out. Up to its turn it passes blocks that are there, each of them once. -/
inductive Turns (document : Document) (block : String) : Except BlockFault (List String) -> Prop where
  | rests {parents : List String} (walk : document.Walk block parents) (distinct : (block :: parents).Nodup)
    (known : forall name, name ∈ block :: parents -> name ∈ document.sectionNames)
    (rests : document.Rests block parents) : Turns document block (.ok parents)
  | strays {passed : List String} {name : String} (walk : document.Walk block (passed ++ [name]))
    (distinct : (block :: passed).Nodup)
    (known : forall name, name ∈ block :: passed -> name ∈ document.sectionNames)
    (absent : name ∉ document.sectionNames) : Turns document block (.error (.missingBlock name))
  | returns {passed : List String} {name : String} (walk : document.Walk block (passed ++ [name]))
    (distinct : (block :: passed).Nodup)
    (known : forall name, name ∈ block :: passed -> name ∈ document.sectionNames)
    (again : name ∈ block :: passed) : Turns document block (.error (.cycle name))

theorem nodup_fresh (distinct : (block :: passed).Nodup) (fresh : name ∉ block :: passed) :
    (block :: (passed ++ [name])).Nodup := by
  rw [← List.cons_append, ← List.concat_eq_append]
  exact distinct.concat fresh

theorem ancestorsFrom_turns (unmarked : document.ParentsUnmarked) {rounds : Nat} {found : List String}
    (walk : document.Walk block found) (distinct : (block :: found).Nodup)
    (known : forall name, name ∈ block :: found -> name ∈ document.sectionNames)
    (enough : document.sections.length ≤ found.length + rounds) :
    document.Turns block (document.ancestorsFrom block rounds (found.getLastD block) found) := by
  induction rounds generalizing found with
  | zero =>
    have fewer := (List.subperm_of_subset distinct known).length_le
    rw [sectionNames, List.length_map, List.length_cons] at fewer
    omega
  | succ rounds ih =>
    rw [ancestorsFrom]
    cases named : document.parentName? (found.getLastD block) with
    | none =>
      rw [parent?_none named]
      exact .rests walk distinct known named
    | some parent =>
      have further := walk_snoc.2 ⟨walk, named⟩
      rw [parent?_some unmarked named]
      by_cases present : parent ∈ document.sectionNames
      next =>
        rw [checkBlock_ok present]
        show document.Turns block (if _ then _ else _)
        by_cases again : parent ∈ block :: found
        next =>
          rw [if_pos (by simpa using again)]
          exact .returns further distinct known again
        next =>
          rw [if_neg (by simpa using again)]
          have there : forall name, name ∈ block :: (found ++ [parent]) -> name ∈ document.sectionNames := by
            rw [← List.cons_append]
            simpa [or_imp, forall_and, present] using known
          have fewer : document.sections.length ≤ (found ++ [parent]).length + rounds := by
            rw [List.length_append, List.length_singleton]
            omega
          have onward := ih further (nodup_fresh distinct again) there fewer
          rwa [List.getLastD_concat] at onward
      next =>
        rw [checkBlock_error present]
        exact .strays further distinct known present

theorem ancestors_turns (unmarked : document.ParentsUnmarked) (known : block ∈ document.sectionNames) {rounds : Nat}
    (enough : document.sections.length ≤ rounds) :
    document.Turns block (document.ancestorsFrom block rounds block []) :=
  ancestorsFrom_turns unmarked .start (List.nodup_singleton block) (by simpa using known)
    (by rwa [List.length_nil, Nat.zero_add])

end Searching

section Turning

variable {outcome : Except BlockFault (List String)}

theorem nodup_of_front (within : others <+: names) (distinct : (block :: names).Nodup) : (block :: others).Nodup :=
  distinct.sublist (within.sublist.cons_cons block)

theorem not_nodup_again (again : name ∈ block :: passed) : ¬(block :: (passed ++ [name])).Nodup := by
  intro distinct
  rw [← List.cons_append, List.nodup_append] at distinct
  exact distinct.2.2 name again name (List.mem_singleton_self name) rfl

theorem rests_absent (absent : name ∉ document.sectionNames) : document.Rests block (passed ++ [name]) := by
  rw [Rests, List.getLastD_concat]
  exact parentName?_absent absent

theorem Walk.stays (walk : document.Walk block (passed ++ [name])) (again : name ∈ block :: passed)
    (other : document.Walk block others) : forall name, name ∈ others -> name ∈ block :: passed := by
  refine other.inside (fun first next member named => ?_) List.mem_cons_self
  obtain ⟨along, namedAlong, among⟩ := walk.leads first member
  obtain rfl := Option.some.inj (named.symm.trans namedAlong)
  rcases List.mem_append.1 among with earlier | last
  next => exact List.mem_cons_of_mem block earlier
  next => exact List.mem_singleton.1 last ▸ again

theorem Turns.missing_iff (turns : document.Turns block outcome) :
    outcome = .error (.missingBlock name) ↔
      (exists names, document.Walk block names ∧ name ∈ names) ∧ name ∉ document.sectionNames := by
  cases turns with
  | rests walk _ known rests =>
    refine iff_of_false nofun ?_
    rintro ⟨⟨names, other, member⟩, absent⟩
    exact absent (known name (List.mem_cons_of_mem block ((other.within walk rests).subset member)))
  | @strays passed stray walk _ known missing =>
    constructor
    next =>
      rintro ⟨⟩
      exact ⟨⟨_, walk, by simp⟩, missing⟩
    next =>
      rintro ⟨⟨names, other, member⟩, absent⟩
      rcases List.mem_append.1 ((other.within walk (rests_absent missing)).subset member) with earlier | last
      next => exact absurd (known name (List.mem_cons_of_mem block earlier)) absent
      next => rw [List.mem_singleton.1 last]
  | returns walk _ known again =>
    refine iff_of_false nofun ?_
    rintro ⟨⟨names, other, member⟩, absent⟩
    exact absent (known name (walk.stays again other name member))

theorem Turns.revisits_iff (turns : document.Turns block outcome) :
    (exists name, outcome = .error (.cycle name)) ↔
      exists names, document.Walk block names ∧ ¬(block :: names).Nodup := by
  cases turns with
  | rests walk distinct _ rests =>
    refine iff_of_false nofun ?_
    rintro ⟨names, other, repeated⟩
    exact repeated (nodup_of_front (other.within walk rests) distinct)
  | strays walk distinct known absent =>
    refine iff_of_false nofun ?_
    rintro ⟨names, other, repeated⟩
    exact repeated
      (nodup_of_front (other.within walk (rests_absent absent)) (nodup_fresh distinct (mt (known _) absent)))
  | returns walk _ _ again => exact iff_of_true ⟨_, rfl⟩ ⟨_, walk, not_nodup_again again⟩

theorem Turns.cycle_iff (turns : document.Turns block outcome) :
    outcome = .error (.cycle name) ↔ exists passed, document.Walk block (passed ++ [name]) ∧
      (block :: passed).Nodup ∧ name ∈ block :: passed := by
  have revisits {passed : List String} (walk : document.Walk block (passed ++ [name]))
      (again : name ∈ block :: passed) : exists found, outcome = .error (.cycle found) :=
    turns.revisits_iff.2 ⟨_, walk, not_nodup_again again⟩
  cases turns with
  | rests =>
    refine iff_of_false nofun ?_
    rintro ⟨passed, walk, _, again⟩
    obtain ⟨found, ⟨⟩⟩ := revisits walk again
  | strays =>
    refine iff_of_false nofun ?_
    rintro ⟨passed, walk, _, again⟩
    obtain ⟨found, ⟨⟩⟩ := revisits walk again
  | @returns passed found walk distinct _ again =>
    constructor
    next =>
      rintro ⟨⟩
      exact ⟨passed, walk, distinct, again⟩
    next =>
      rintro ⟨others, other, distinctOther, againOther⟩
      -- Neither of the two goes on behind the first name that it repeats.
      have same : others ++ [name] = passed ++ [found] := by
        rcases other.comparable walk with within | within
        next =>
          rcases List.prefix_concat_iff.1 within with same | earlier
          next => exact same
          next => exact absurd (nodup_of_front earlier distinct) (not_nodup_again againOther)
        next =>
          rcases List.prefix_concat_iff.1 within with same | earlier
          next => exact same.symm
          next => exact absurd (nodup_of_front earlier distinctOther) (not_nodup_again again)
      rw [List.singleton_inj.1 (List.append_inj' same rfl).2]

theorem Turns.ok_iff (turns : document.Turns block outcome) :
    outcome = .ok parents ↔ document.Walk block parents ∧ document.Rests block parents ∧
      forall name, name ∈ parents -> name ∈ document.sectionNames := by
  cases turns with
  | @rests passed walk _ known rests =>
    constructor
    next =>
      rintro ⟨⟩
      exact ⟨walk, rests, fun name member => known name (List.mem_cons_of_mem block member)⟩
    next =>
      rintro ⟨other, restsOther, _⟩
      rw [(walk.within other restsOther).eq_of_length_le (other.within walk rests).length_le]
  | @strays passed name walk _ _ absent =>
    refine iff_of_false nofun ?_
    rintro ⟨other, restsOther, known⟩
    exact absent (known name ((walk.within other restsOther).subset (by simp)))
  | @returns passed name walk _ _ again =>
    refine iff_of_false nofun ?_
    rintro ⟨other, restsOther, _⟩
    have last : parents.getLastD block ∈ block :: passed :=
      (List.mem_cons.1 List.getLastD_mem_cons).elim (· ▸ List.mem_cons_self) (walk.stays again other _)
    obtain ⟨next, named, _⟩ := walk.leads _ last
    rw [restsOther] at named
    cases named

theorem Turns.unique (turns : document.Turns block outcome) {again : Except BlockFault (List String)}
    (turnsAgain : document.Turns block again) : outcome = again := by
  have first := turns
  cases turns with
  | rests => exact (turnsAgain.ok_iff.2 (first.ok_iff.1 rfl)).symm
  | strays => exact (turnsAgain.missing_iff.2 (first.missing_iff.1 rfl)).symm
  | returns => exact (turnsAgain.cycle_iff.2 (first.cycle_iff.1 rfl)).symm

theorem Turns.distinct (turns : document.Turns block outcome) (found : outcome = .ok parents) :
    (block :: parents).Nodup := by
  cases turns with
  | rests _ distinct =>
    cases found
    exact distinct
  | strays => cases found
  | returns => cases found

theorem Turns.cases (turns : document.Turns block outcome) :
    (exists parents, outcome = .ok parents) ∨ (exists name, outcome = .error (.missingBlock name)) ∨
      exists name, outcome = .error (.cycle name) := by
  cases turns with
  | rests => exact .inl ⟨_, rfl⟩
  | strays => exact .inr (.inl ⟨_, rfl⟩)
  | returns => exact .inr (.inr ⟨_, rfl⟩)

end Turning

section Main

/-- The search for the ancestors of a block comes to an end within as many rounds as there are sections. It faults with
a missing block exactly when the walk from the block reaches it, and with a cycle exactly when the walk comes back to a
block, at the first name that repeats one. Otherwise it gives the blocks of the whole walk, the nearest one first, which
are distinct and other than the block itself. -/
theorem ancestors_classified (document : Document) (block : String) (known : block ∈ document.sectionNames)
    (unmarked : document.ParentsUnmarked) :
    (forall rounds, document.sections.length ≤ rounds ->
      document.ancestorsFrom block rounds block [] = document.ancestors block) ∧
    (forall name, document.ancestors block = .error (.missingBlock name) ↔
      (exists names, document.Walk block names ∧ name ∈ names) ∧ name ∉ document.sectionNames) ∧
    (forall name, document.ancestors block = .error (.cycle name) ↔
      exists passed, document.Walk block (passed ++ [name]) ∧ (block :: passed).Nodup ∧ name ∈ block :: passed) ∧
    ((exists name, document.ancestors block = .error (.cycle name)) ↔
      exists names, document.Walk block names ∧ ¬(block :: names).Nodup) ∧
    (forall parents, document.ancestors block = .ok parents ↔ document.Walk block parents ∧
      document.Rests block parents ∧ forall name, name ∈ parents -> name ∈ document.sectionNames) ∧
    (forall parents, document.ancestors block = .ok parents -> (block :: parents).Nodup) ∧
    ((exists parents, document.ancestors block = .ok parents) ∨
      (exists name, document.ancestors block = .error (.missingBlock name)) ∨
      exists name, document.ancestors block = .error (.cycle name)) := by
  have turns : document.Turns block (document.ancestors block) := ancestors_turns unmarked known (Nat.le_succ _)
  refine ⟨fun rounds enough => ?_, fun name => turns.missing_iff, fun name => turns.cycle_iff, turns.revisits_iff,
    fun parents => turns.ok_iff, fun parents => turns.distinct, turns.cases⟩
  exact (ancestors_turns unmarked known enough).unique turns

def roundDocument : Document :=
  { fallback := [("unit", "m")]
    sections := [("desk", [("inherits", "room ")]), ("room", [("inherits", "house")]),
      ("house", [("inherits", "room"), ("unit", "km")])] }

theorem ancestors_classified_round : roundDocument.ancestors "desk" = .error (.cycle "room") := by
  have unmarked : roundDocument.ParentsUnmarked := fun _ _ =>
    unmarked_of_entries (by decide +kernel) (by decide +kernel)
  obtain ⟨_, _, cycles, _⟩ := ancestors_classified roundDocument "desk" (by decide +kernel) unmarked
  have walk : roundDocument.Walk "desk" ["room", "house", "room"] :=
    .step (by decide +kernel) (.step (by decide +kernel) (.step (by decide +kernel) .start))
  exact (cycles "room").2 ⟨["room", "house"], walk, by decide, by decide⟩

end Main

end Document

end SpokenArithmetic.Settings
