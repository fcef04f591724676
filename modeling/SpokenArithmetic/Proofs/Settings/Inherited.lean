import Mathlib.Data.List.Perm.Subperm
import SpokenArithmetic.Proofs.Settings.Standing

set_option autoImplicit false

namespace SpokenArithmetic.Settings

open Text

namespace Entries

variable {entries : Entries} {key value : String}

structure Neat (entries : Entries) : Prop where
  distinct : entries.keys.Nodup
  lowerKeys : forall entry, entry ∈ entries -> lowered entry.1 = entry.1

theorem neat_nil : Neat [] :=
  ⟨.nil, nofun⟩

theorem nodup_put (distinct : entries.keys.Nodup) : (entries.put key value).keys.Nodup := by
  induction entries with
  | nil => exact List.pairwise_singleton _ key
  | cons entry rest ih =>
    obtain ⟨other, old⟩ := entry
    obtain ⟨apart, distinct⟩ := List.nodup_cons.1 distinct
    unfold put
    by_cases same : other = key
    next =>
      rw [if_pos same]
      exact List.nodup_cons.2 ⟨same ▸ apart, distinct⟩
    next =>
      rw [if_neg same]
      refine List.nodup_cons.2 ⟨fun listed => ?_, ih distinct⟩
      have found := mem_keys_iff.1 listed
      rw [find?_put, if_neg same] at found
      exact apart (mem_keys_iff.2 found)

theorem Neat.put (neat : entries.Neat) (lower : lowered key = key) (value : String) :
    (entries.put key value).Neat where
  distinct := nodup_put neat.distinct
  lowerKeys entry member := by
    rcases mem_put member with rfl | old
    next => exact lower
    next => exact neat.lowerKeys entry old

theorem Neat.filter (neat : entries.Neat) (keep : String × String -> Bool) : Neat (entries.filter keep) where
  distinct := neat.distinct.sublist (List.Sublist.map _ List.filter_sublist)
  lowerKeys entry member := neat.lowerKeys entry (List.mem_filter.1 member).1

theorem find?_of_mem (distinct : entries.keys.Nodup) (member : (key, value) ∈ entries) :
    entries.find? key = some value := by
  induction entries with
  | nil => cases member
  | cons entry rest ih =>
    obtain ⟨other, old⟩ := entry
    obtain ⟨apart, distinct⟩ := List.nodup_cons.1 distinct
    rcases List.mem_cons.1 member with here | later
    next =>
      obtain ⟨rfl, rfl⟩ := Prod.mk.inj here
      simp [find?]
    next =>
      have differs : (key == other) = false := by
        simpa using fun same : key = other => apart (same ▸ List.mem_map.2 ⟨_, later, rfl⟩)
      rw [find?, List.lookup_cons, differs]
      exact ih distinct later

theorem named?_of_lower (lowerKeys : forall entry, entry ∈ entries -> lowered entry.1 = entry.1) (key : String) :
    entries.named? key = entries.find? (lowered key) := by
  unfold named? find?
  induction entries with
  | nil => rfl
  | cons entry rest ih =>
    obtain ⟨first, held⟩ := entry
    have lower : lowered first = first := lowerKeys (first, held) List.mem_cons_self
    have later := ih fun entry member => lowerKeys entry (List.mem_cons_of_mem _ member)
    by_cases same : first = lowered key
    next => simp [← same, lower]
    next =>
      have differs : (lowered key == first) = false := by simpa using fun other => same other.symm
      simp only [List.find?_cons, lower, same, decide_false, List.lookup_cons, differs, later]

theorem Neat.mem_iff (neat : entries.Neat) :
    (lowered key, value) ∈ entries ↔ entries.named? key = some value := by
  rw [named?_of_lower neat.lowerKeys]
  exact ⟨find?_of_mem neat.distinct, mem_of_find?⟩

def last? (key : String) (entries : Entries) : Option String :=
  named? key entries.reverse

theorem last?_cons (entry : String × String) (entries : Entries) (key : String) :
    last? key (entry :: entries) =
      (last? key entries).or (if lowered key = lowered entry.1 then some entry.2 else none) := by
  unfold last? named?
  rw [List.reverse_cons, List.find?_append, Option.map_or]
  by_cases hit : lowered key = lowered entry.1
  next => simp [hit]
  next => simp [hit, Ne.symm hit]

theorem last?_of_distinct (distinct : (entries.map fun entry => lowered entry.1).Nodup) (key : String) :
    entries.last? key = entries.named? key := by
  induction entries with
  | nil => rfl
  | cons entry rest ih =>
    obtain ⟨apart, distinct⟩ := List.nodup_cons.1 distinct
    rw [last?_cons, ih distinct]
    unfold named?
    by_cases hit : lowered key = lowered entry.1
    next =>
      have others : List.find? (fun other : String × String => lowered other.1 = lowered key) rest = none := by
        refine List.find?_eq_none.2 fun other member => ?_
        rw [decide_eq_true_eq]
        intro again
        exact apart (List.mem_map.2 ⟨other, member, again.trans hit⟩)
      rw [others]
      simp [hit]
    next => simp [hit, Ne.symm hit]

theorem named?_filter (keep : String -> Bool) (entries : Entries)
    (lowerKeys : forall entry, entry ∈ entries -> lowered entry.1 = entry.1) (key : String) :
    named? key (entries.filter fun entry => keep entry.1) =
      if keep (lowered key) then entries.find? (lowered key) else none := by
  rw [named?_of_lower fun entry member => lowerKeys entry (List.mem_filter.1 member).1]
  unfold find?
  clear lowerKeys
  induction entries with
  | nil => cases keep (lowered key) <;> rfl
  | cons entry rest ih =>
    obtain ⟨first, held⟩ := entry
    by_cases same : first = lowered key
    next =>
      subst same
      cases kept : keep (lowered key) with
      | true => simp [kept]
      | false => simpa [kept] using ih
    next =>
      have differs : (lowered key == first) = false := by simpa using fun other => same other.symm
      cases kept : keep first with
      | true => simpa [kept, List.lookup_cons, differs] using ih
      | false => simpa [kept, List.lookup_cons, differs] using ih

end Entries

namespace Document

variable {document : Document} {name block key value : String}

section Changing

def latest? (key : String) : List Change -> Option String
  | [] => none
  | change :: rest =>
    (latest? key rest).or (if lowered key = lowered change.key then change.value.toOption else none)

def Accepted (change : Change) : Prop :=
  exists value, change.value = .ok value ∧ Reference.strayPercent? value.toList = none

theorem setAll_alters (ordinary : block ≠ "" ∧ block ≠ fallbackName) (member : block ∈ document.sectionNames)
    (changes : List Change) :
    let done := (Document.setAll block changes document).result
    (done.fault = none ↔ forall change, change ∈ changes -> Accepted change) ∧
      (done.fault = none ->
        document.Alters block (fun key => (latest? key changes).or (document.own? block key)) done.document) := by
  induction changes generalizing document with
  | nil =>
    refine ⟨iff_of_true rfl nofun, fun _ => ?_⟩
    exact alters_self document block
  | cons change rest ih =>
    dsimp only
    rw [Document.setAll, Told.result_bind]
    cases set : change.value.bind (document.set block change.key) with
    | error fault =>
      refine ⟨iff_of_false nofun fun all => ?_, nofun⟩
      obtain ⟨value, given, accepted⟩ := all change List.mem_cons_self
      rw [given] at set
      have made : document.set block change.key value = .ok _ := (set_ok_iff ordinary).2 ⟨member, accepted, rfl⟩
      rw [Except.bind, made] at set
      cases set
    | ok next =>
      obtain ⟨value, given, set⟩ := bind_eq_ok.1 set
      obtain ⟨_, accepted, rfl⟩ := (set_ok_iff ordinary).1 set
      have assigned := assign_alters member change.key value
      obtain ⟨succeeds, alters⟩ := ih (assigned.names ▸ member)
      refine ⟨succeeds.trans ?_, fun done => ?_⟩
      next =>
        rw [List.forall_mem_cons]
        exact (and_iff_right ⟨value, given, accepted⟩).symm
      next =>
        have values : (fun key => (latest? key rest).or ((document.assign block change.key value).own? block key)) =
            fun key => (latest? key (change :: rest)).or (document.own? block key) := by
          funext key
          rw [assigned.own, latest?, given, Option.or_assoc]
          by_cases hit : lowered key = lowered change.key
          next => rw [if_pos hit, if_pos hit]; rfl
          next => rw [if_neg hit, if_neg hit, Option.none_or]
        exact assigned.trans (values ▸ alters done)

theorem set_names {changed : Document} (set : document.set name key value = .ok changed) :
    changed.sectionNames = document.sectionNames := by
  unfold Document.set at set
  split at set
  next => cases set
  next =>
    dsimp only at set
    split_ifs at set
    next =>
      cases set
      rfl
    next =>
      cases set
      exact changeSection_names name _ document.sections

theorem setAll_names (changes : List Change) (document : Document) :
    (Document.setAll block changes document).result.document.sectionNames = document.sectionNames := by
  induction changes generalizing document with
  | nil => rfl
  | cons change rest ih =>
    rw [Document.setAll, Told.result_bind]
    cases set : change.value.bind (document.set block change.key) with
    | error fault => rfl
    | ok next =>
      obtain ⟨value, _, set⟩ := bind_eq_ok.1 set
      exact (ih next).trans (set_names set)

theorem latest?_entries {entries : Entries} {changes : List Change} (key : String)
    (same : changes.map (fun change => (change.key, change.value)) = entries.map fun entry => (entry.1, .ok entry.2)) :
    latest? key changes = entries.last? key := by
  induction entries generalizing changes with
  | nil =>
    have none : changes = [] := List.map_eq_nil_iff.1 same
    rw [none]
    rfl
  | cons entry rest ih =>
    cases changes with
    | nil => cases same
    | cons change others =>
      obtain ⟨here, later⟩ := List.cons.inj same
      obtain ⟨keyed, valued⟩ := Prod.mk.inj here
      rw [latest?, ih later, keyed, valued, Entries.last?_cons]
      rfl

theorem latest?_keys {value? : String -> Option String} (same : forall key, value? (lowered key) = value? key)
    {changes : List Change} {keys : List String} (key : String)
    (given : changes.map (fun change => (change.key, change.value.toOption)) = keys.map fun key => (key, value? key)) :
    latest? key changes = if keys.any (lowered · = lowered key) then value? key else none := by
  induction keys generalizing changes with
  | nil =>
    have none : changes = [] := List.map_eq_nil_iff.1 given
    rw [none]
    rfl
  | cons first rest ih =>
    cases changes with
    | nil => cases given
    | cons change others =>
      obtain ⟨here, later⟩ := List.cons.inj given
      obtain ⟨keyed, valued⟩ := Prod.mk.inj here
      rw [latest?, ih later, keyed, valued]
      by_cases hit : lowered key = lowered first
      next =>
        have value : value? first = value? key := by rw [← same first, ← hit, same]
        rw [if_pos hit, value, List.any_cons, decide_eq_true hit.symm, Bool.true_or, if_pos rfl]
        cases rest.any (lowered · = lowered key) <;> simp
      next =>
        have other : decide (lowered first = lowered key) = false := decide_eq_false (Ne.symm hit)
        rw [if_neg hit, Option.or_none, List.any_cons, other, Bool.false_or]

theorem any_lowered {keys : List String} (lower : forall key, key ∈ keys -> lowered key = key) (key : String) :
    keys.any (lowered · = lowered key) = true ↔ lowered key ∈ keys := by
  rw [List.any_eq_true]
  constructor
  next =>
    rintro ⟨other, member, same⟩
    rw [decide_eq_true_eq, lower other member] at same
    exact same ▸ member
  next => exact fun member => ⟨_, member, by simp [lowered_lowered]⟩

def given (entries : Entries) : List Change :=
  entries.map fun entry => ⟨entry.1, .ok entry.2, []⟩

theorem latest?_given {entries : Entries} (neat : entries.Neat) (key : String) :
    latest? key (given entries) = entries.named? key := by
  have distinct : (entries.map fun entry => lowered entry.1).Nodup := by
    rw [List.map_congr_left neat.lowerKeys]
    exact neat.distinct
  rw [← Entries.last?_of_distinct distinct]
  exact latest?_entries key (by simp [given])

theorem or_missing {listed : Prop} [Decidable listed] {here copied : Option String} (lacking : listed -> here = none)
    (complete : here = none -> ¬listed -> copied = none) :
    (if listed then copied else none).or here = here.or copied := by
  by_cases hit : listed
  next => rw [if_pos hit, lacking hit, Option.or_none, Option.none_or]
  next =>
    rw [if_neg hit, Option.none_or]
    cases absent : here with
    | none => rw [complete absent hit, Option.none_or]
    | some value => rfl

end Changing

section Ancestors

/-- The blocks that are reached from a block by the parents that are named, up to one that names none. -/
inductive Descends (document : Document) : String -> List String -> Prop where
  | root {block : String} (orphan : document.own? block parentKey = none) : Descends document block []
  | child {block named : String} {parents : List String} (own : document.own? block parentKey = some named)
    (known : stripped named ∈ document.sectionNames) (rest : Descends document (stripped named) parents) :
    Descends document block (stripped named :: parents)

/-- The blocks that are reached from a block when the parents are read with their references filled. -/
inductive Follows (document : Document) : String -> List String -> Prop where
  | root {block : String} (orphan : document.own? block parentKey = none) : Follows document block []
  | child {block named : String} {parents : List String} (shown : document.get block parentKey = .ok named)
    (known : stripped named ∈ document.sectionNames) (rest : Follows document (stripped named) parents) :
    Follows document block (stripped named :: parents)

theorem Follows.parent {named parent : String} {parents : List String}
    (shown : document.get block parentKey = .ok named) (trimmed : stripped named = parent)
    (known : parent ∈ document.sectionNames) (rest : document.Follows parent parents) :
    document.Follows block (parent :: parents) := by
  subst trimmed
  exact .child shown known rest

theorem Plain.follows (plain : document.Plain) {parents : List String}
    (descends : document.Descends block parents) : document.Follows block parents := by
  induction descends with
  | root orphan => exact .root orphan
  | child own known _ ih => exact .child (plain.get_own own) known ih

theorem Follows.known {parents : List String} (follows : document.Follows block parents) :
    forall parent, parent ∈ parents -> parent ∈ document.sectionNames := by
  induction follows with
  | root => exact nofun
  | child shown known rest ih =>
    intro parent member
    rcases List.mem_cons.1 member with rfl | later
    next => exact known
    next => exact ih parent later

theorem Standing.parent?_root (standing : document.Standing) (orphan : document.own? block parentKey = none) :
    document.parent? block = .ok none := by
  have absent : ¬document.hasKey block parentKey = true := by
    rw [standing.hasKey_iff, orphan]
    exact nofun
  rw [parent?, if_neg absent]
  rfl

theorem Standing.parent?_child (standing : document.Standing) {named : String}
    (shown : document.get block parentKey = .ok named) (known : stripped named ∈ document.sectionNames) :
    document.parent? block = .ok (some (stripped named)) := by
  have present : document.hasKey block parentKey = true := standing.hasKey_iff.2 (standing.own?_of_get shown)
  rw [parent?, if_pos present, shown]
  show (document.checkBlock (stripped named)).bind _ = _
  rw [checkBlock_ok known]
  rfl

theorem Standing.ancestorsFrom_follows (standing : document.Standing) {current : String}
    {parents found : List String} {rounds : Nat} (follows : document.Follows current parents)
    (acyclic : (block :: (found ++ parents)).Nodup) (enough : parents.length < rounds) :
    document.ancestorsFrom block rounds current found = .ok (found ++ parents) := by
  induction follows generalizing found rounds with
  | root orphan =>
    cases rounds with
    | zero => cases enough
    | succ rounds =>
      rw [ancestorsFrom, standing.parent?_root orphan, List.append_nil]
      rfl
  | @child current named parents shown known rest ih =>
    cases rounds with
    | zero => cases enough
    | succ rounds =>
      have grouped : found ++ stripped named :: parents = (found ++ [stripped named]) ++ parents := by simp
      obtain ⟨outside, distinct⟩ := List.nodup_cons.1 acyclic
      have fresh : stripped named ≠ block := fun same => outside (by simp [same])
      have unseen : stripped named ∉ found := fun seen =>
        (List.nodup_append.1 distinct).2.2 _ seen _ List.mem_cons_self rfl
      have onward : ¬((stripped named = block || found.contains (stripped named)) = true) := by
        simp [fresh, unseen]
      rw [grouped] at acyclic ⊢
      rw [ancestorsFrom, standing.parent?_child shown known]
      show (if _ then _ else _) = _
      rw [if_neg onward]
      exact ih acyclic (Nat.lt_of_succ_lt_succ enough)

theorem Standing.ancestors_follows (standing : document.Standing) {parents : List String}
    (follows : document.Follows block parents) (acyclic : (block :: parents).Nodup) :
    document.ancestors block = .ok parents := by
  have fewer : parents.length ≤ document.sectionNames.length :=
    (List.subperm_of_subset (List.nodup_cons.1 acyclic).2 follows.known).length_le
  have enough : parents.length < document.sections.length + 1 := by
    rw [sectionNames, List.length_map] at fewer
    omega
  have unvisited : (block :: ([] ++ parents)).Nodup := acyclic
  exact standing.ancestorsFrom_follows follows unvisited enough

end Ancestors

section Collecting

def nearest? (document : Document) (blocks : List String) (key : String) : Option String :=
  blocks.findSome? (document.own? · key)

def nearestShown? (document : Document) (blocks : List String) (key : String) : Option String :=
  blocks.findSome? (document.shown? · key)

def Readable (document : Document) (blocks : List String) (key : String) : Prop :=
  forall name, name ∈ blocks -> (document.own? name key).isSome = true ->
    exists value, document.get name key = .ok value

theorem Plain.nearestShown?_own (plain : document.Plain) (blocks : List String) :
    document.nearestShown? blocks = document.nearest? blocks := by
  funext key
  unfold nearestShown? nearest?
  simp only [plain.shown?_own]

theorem Plain.readable (plain : document.Plain) (blocks : List String) (key : String) :
    document.Readable blocks key := by
  intro name _ present
  obtain ⟨value, own⟩ := Option.isSome_iff_exists.1 present
  exact ⟨value, plain.get_own own⟩

theorem collect_shown {keys : List String} {collected : Entries}
    (lower : forall key, key ∈ keys -> lowered key = key)
    (shown : forall key, key ∈ keys -> exists value, document.get name key = .ok value) (neat : collected.Neat) :
    exists more, document.collect name keys collected = .ok more ∧ more.Neat ∧
      forall key, more.find? key = if key ∈ keys then document.shown? name key else collected.find? key := by
  induction keys generalizing collected with
  | nil => exact ⟨collected, rfl, neat, fun key => by simp⟩
  | cons first rest ih =>
    obtain ⟨value, got⟩ := shown first List.mem_cons_self
    obtain ⟨more, collects, neatMore, found⟩ := ih (fun key member => lower key (List.mem_cons_of_mem _ member))
      (fun key member => shown key (List.mem_cons_of_mem _ member)) (neat.put (lower first List.mem_cons_self) value)
    refine ⟨more, ?_, neatMore, fun key => ?_⟩
    next =>
      rw [collect, got]
      exact collects
    next =>
      rw [found, Entries.find?_put]
      by_cases later : key ∈ rest
      next => rw [if_pos later, if_pos (List.mem_cons_of_mem _ later)]
      next =>
        rw [if_neg later]
        by_cases same : key = first
        next => rw [if_pos same, if_pos (by simp [same]), same, shown?, got]; rfl
        next => rw [if_neg same, if_neg (by simp [same, later])]

theorem shown_of_collect {keys : List String} {collected more : Entries}
    (collects : document.collect name keys collected = .ok more) :
    forall key, key ∈ keys -> exists value, document.get name key = .ok value := by
  induction keys generalizing collected with
  | nil => exact nofun
  | cons first rest ih =>
    obtain ⟨value, got, others⟩ := bind_eq_ok.1 collects
    rw [List.forall_mem_cons]
    refine ⟨⟨value, ?_⟩, ih others⟩
    cases read : document.get name first with
    | error fault =>
      rw [read] at got
      cases got
    | ok again =>
      rw [read] at got
      cases got
      rfl

theorem Standing.collectBlocks_shown (standing : document.Standing) {blocks : List String} {collected : Entries}
    (known : forall name, name ∈ blocks -> name ∈ document.sectionNames)
    (readable : forall key, document.Readable blocks key) (neat : collected.Neat) :
    exists more, document.collectBlocks blocks collected = .ok more ∧ more.Neat ∧
      forall key, more.find? (lowered key) =
        (document.nearestShown? blocks.reverse key).or (collected.find? (lowered key)) := by
  induction blocks generalizing collected with
  | nil => exact ⟨collected, rfl, neat, fun key => rfl⟩
  | cons name rest ih =>
    obtain ⟨keys, listed, held⟩ := standing.keys_own (known name List.mem_cons_self)
    obtain ⟨next, collects, neatNext, foundNext⟩ := collect_shown (fun key member => ((held key).1 member).1)
      (fun key member => readable key name List.mem_cons_self ((held key).1 member).2) neat
    obtain ⟨more, others, neatMore, found⟩ := ih (fun other member => known other (List.mem_cons_of_mem _ member))
      (fun key other member => readable key other (List.mem_cons_of_mem _ member)) neatNext
    refine ⟨more, ?_, neatMore, fun key => ?_⟩
    next =>
      rw [collectBlocks, listed]
      show (document.collect name keys collected).bind _ = _
      rw [collects]
      exact others
    next =>
      -- A block is asked before those that come behind it are, and it comes behind them when they are reversed.
      rw [found, foundNext, List.reverse_cons, nearestShown?, nearestShown?, List.findSome?_append, Option.or_assoc]
      congr 1
      by_cases member : lowered key ∈ keys
      next =>
        obtain ⟨value, got⟩ := readable _ name List.mem_cons_self ((held _).1 member).2
        rw [get_lowered] at got
        rw [if_pos member, shown?_lowered]
        simp [shown?, got, Except.toOption]
      next =>
        have hidden : document.shown? name key = none := by
          cases shown : document.get name key with
          | error fault => rw [shown?, shown]; rfl
          | ok value =>
            have present := Option.isSome_iff_exists.2 (standing.own?_of_get shown)
            rw [← own?_lowered] at present
            exact absurd ((held (lowered key)).2 ⟨lowered_lowered key, present⟩) member
        rw [if_neg member]
        simp [hidden]

theorem Standing.readable_of_collectBlocks (standing : document.Standing) {blocks : List String}
    {collected more : Entries} (known : forall name, name ∈ blocks -> name ∈ document.sectionNames)
    (collects : document.collectBlocks blocks collected = .ok more) (key : String) :
    document.Readable blocks key := by
  induction blocks generalizing collected with
  | nil => exact nofun
  | cons name rest ih =>
    obtain ⟨keys, listed, held⟩ := standing.keys_own (known name List.mem_cons_self)
    rw [collectBlocks, listed] at collects
    obtain ⟨_, ⟨⟩, collects⟩ := bind_eq_ok.1 collects
    obtain ⟨next, here, others⟩ := bind_eq_ok.1 collects
    intro other member present
    rcases List.mem_cons.1 member with rfl | later
    next =>
      rw [← own?_lowered] at present
      rw [← get_lowered]
      exact shown_of_collect here _ ((held _).2 ⟨lowered_lowered key, present⟩)
    next => exact ih (fun other later => known other (List.mem_cons_of_mem _ later)) others other later present

theorem Standing.inherited_shown (standing : document.Standing) (member : block ∈ document.sectionNames)
    {parents : List String} (known : forall name, name ∈ parents -> name ∈ document.sectionNames)
    (readable : forall key, document.Readable parents key) :
    exists entries, document.inherited block parents = .ok entries ∧ entries.Neat ∧
      forall key, entries.named? key =
        if (document.own? block key).isSome = true then none else document.nearestShown? parents key := by
  obtain ⟨keys, listed, held⟩ := standing.keys_own member
  obtain ⟨more, collects, neat, found⟩ :=
    standing.collectBlocks_shown (fun name member => known name (List.mem_reverse.1 member))
      (fun key name member => readable key name (List.mem_reverse.1 member)) Entries.neat_nil
  refine ⟨more.filter (!keys.contains ·.1), ?_, neat.filter _, fun key => ?_⟩
  next =>
    rw [inherited, listed]
    show (document.collectBlocks parents.reverse []).bind _ = _
    rw [collects]
    rfl
  next =>
    have lowerHeld : lowered key ∈ keys ↔ (document.own? block key).isSome = true := by
      rw [held, own?_lowered]
      exact and_iff_right (lowered_lowered key)
    rw [Entries.named?_filter (fun key => !keys.contains key) more neat.lowerKeys, found, List.reverse_reverse]
    by_cases has : (document.own? block key).isSome = true
    next => simp [has, lowerHeld.2 has]
    next =>
      have absent : lowered key ∉ keys := fun member => has (lowerHeld.1 member)
      simp [has, absent, Entries.find?]

theorem Standing.readable_of_inherited (standing : document.Standing) (member : block ∈ document.sectionNames)
    {parents : List String} {entries : Entries}
    (known : forall name, name ∈ parents -> name ∈ document.sectionNames)
    (inherits : document.inherited block parents = .ok entries) (key : String) : document.Readable parents key := by
  obtain ⟨keys, listed, _⟩ := standing.keys_own member
  rw [inherited, listed] at inherits
  obtain ⟨_, ⟨⟩, inherits⟩ := bind_eq_ok.1 inherits
  obtain ⟨more, collects, _⟩ := bind_eq_ok.1 inherits
  have readable := standing.readable_of_collectBlocks (fun name member => known name (List.mem_reverse.1 member))
    collects key
  exact fun name member => readable name (List.mem_reverse.2 member)

end Collecting

end Document

end SpokenArithmetic.Settings
