import SpokenArithmetic.Proofs.Settings.Copied
import SpokenArithmetic.Proofs.Settings.Lineage
import SpokenArithmetic.Proofs.Settings.Parsed

set_option autoImplicit false

namespace SpokenArithmetic.Settings

open Text

namespace Entries

variable {fallback entries : Entries} {key : String}

def spread (fallback entries : Entries) : Entries :=
  entries ++ fallback.filter (!entries.keys.contains ·.1)

theorem keys_spread (fallback entries : Entries) :
    (spread fallback entries).keys = entries.keys ++ fallback.keys.filter (!entries.keys.contains ·) := by
  unfold spread keys
  rw [List.map_append, List.filter_map]
  rfl

theorem find?_append (nearer farther : Entries) (key : String) :
    find? key (nearer ++ farther) = (nearer.find? key).or (farther.find? key) := by
  induction nearer with
  | nil => rfl
  | cons entry rest ih =>
    obtain ⟨first, value⟩ := entry
    unfold find? at ih ⊢
    rw [List.cons_append, List.lookup_cons, List.lookup_cons]
    cases key == first with
    | true => rfl
    | false => exact ih

theorem find?_lacking (keep : String -> Bool) (entries : Entries) (kept : keep key = true) :
    find? key (entries.filter fun entry => keep entry.1) = entries.find? key := by
  induction entries with
  | nil => rfl
  | cons entry rest ih =>
    obtain ⟨first, value⟩ := entry
    unfold find? at ih ⊢
    by_cases same : key = first
    next =>
      subst same
      simp [kept]
    next =>
      have differs : (key == first) = false := by simpa using same
      cases keeps : keep first <;> simpa [keeps, List.lookup_cons, differs] using ih

theorem find?_spread (fallback entries : Entries) (key : String) :
    (spread fallback entries).find? key = (entries.find? key).or (fallback.find? key) := by
  rw [spread, find?_append]
  cases own : entries.find? key with
  | some value => rfl
  | none =>
    have lacking : (!entries.keys.contains key) = true := by
      have outside : key ∉ entries.keys := fun listed => by
        rw [mem_keys_iff, own] at listed
        cases listed
      simpa using outside
    rw [find?_lacking (fun key => !entries.keys.contains key) fallback lacking]

end Entries

namespace Document

variable {document changed : Document} {block name key value : String} {parents blocks : List String}

section Spreading

def spread (document : Document) : Document :=
  { fallback := [], sections := document.sections.map fun (name, entries) => (name, document.fallback.spread entries) }

theorem sectionNames_spread (document : Document) : document.spread.sectionNames = document.sectionNames := by
  unfold sectionNames spread
  rw [List.map_map]
  rfl

theorem section?_spread (document : Document) (name : String) :
    document.spread.section? name = (document.section? name).map document.fallback.spread := by
  unfold section? spread
  dsimp only
  induction document.sections with
  | nil => rfl
  | cons first rest ih =>
    rw [List.map_cons, List.lookup_cons, List.lookup_cons]
    cases name == first.1 with
    | true => rfl
    | false => exact ih

theorem raw?_spread (document : Document) (entries : Entries) :
    document.spread.raw? (document.fallback.spread entries) = document.raw? entries := by
  funext key
  rw [raw?_eq, raw?_eq, Entries.find?_spread, show document.spread.fallback.find? key = none from rfl, Option.or_none]

theorem keys_spread (document : Document) (name : String) : document.spread.keys name = document.keys name := by
  unfold keys
  rw [section?_spread]
  cases document.section? name with
  | none => rfl
  | some entries =>
    have none : document.spread.fallback.keys = [] := rfl
    rw [Option.map_some, none]
    exact congrArg Except.ok ((List.append_nil _).trans (Entries.keys_spread document.fallback entries))

theorem get_spread (document : Document) (name key : String) :
    document.spread.get name key = document.get name key := by
  unfold get
  rw [section?_spread]
  cases document.section? name with
  | none => rfl
  | some entries => rw [Option.map_some]; dsimp only; rw [raw?_spread]

theorem own?_spread (document : Document) (name : String) : document.spread.own? name = document.held? name := by
  funext key
  unfold own? held?
  rw [section?_spread, Option.bind_map]
  cases document.section? name with
  | none => rfl
  | some entries =>
    rw [Option.bind_some, Option.bind_some, raw?_eq]
    exact Entries.find?_spread document.fallback entries (lowered key)

theorem held?_eq (known : name ∈ document.sectionNames) (key : String) :
    document.held? name key = (document.own? name key).or (document.fallback.find? (lowered key)) := by
  obtain ⟨entries, found⟩ := section?_of_mem known
  rw [held?, own?_section found, found, Option.bind_some, raw?_eq]

theorem checkBlock_spread (document : Document) (name : String) :
    document.spread.checkBlock name = document.checkBlock name := by
  unfold checkBlock hasSection
  rw [sectionNames_spread]

theorem collect_spread (document : Document) (name : String) (keys : List String) (collected : Entries) :
    document.spread.collect name keys collected = document.collect name keys collected := by
  induction keys generalizing collected with
  | nil => rfl
  | cons key rest ih =>
    unfold collect
    rw [get_spread]
    exact bind_congr fun value => ih _

theorem collectBlocks_spread (document : Document) (names : List String) (collected : Entries) :
    document.spread.collectBlocks names collected = document.collectBlocks names collected := by
  induction names generalizing collected with
  | nil => rfl
  | cons name rest ih =>
    unfold collectBlocks
    rw [keys_spread]
    refine bind_congr fun keys => ?_
    rw [collect_spread]
    exact bind_congr fun collected => ih _

theorem inherited_spread (document : Document) (block : String) (ancestors : List String) :
    document.spread.inherited block ancestors = document.inherited block ancestors := by
  unfold inherited
  rw [keys_spread, collectBlocks_spread]

theorem missingKeys_spread (document : Document) (block : String) :
    document.spread.missingKeys block = document.missingKeys block := by
  unfold missingKeys
  rw [checkBlock_spread, keys_spread, keys_spread]

end Spreading

section Clear

structure Clear (document : Document) : Prop where
  named : forall name, name ∈ document.sectionNames -> name ≠ "" ∧ name ≠ fallbackName
  sections : forall found, found ∈ document.sections -> forall entry, entry ∈ found.2 ->
    lowered entry.1 = entry.1 ∧ Unmarked entry.2
  fallback : forall entry, entry ∈ document.fallback -> lowered entry.1 = entry.1 ∧ Unmarked entry.2

theorem Clear.spread (clear : document.Clear) : document.spread.Plain := by
  have entry {name : String} {entries : Entries} (member : (name, entries) ∈ document.spread.sections) :
      forall entry, entry ∈ entries -> lowered entry.1 = entry.1 ∧ Unmarked entry.2 := by
    obtain ⟨⟨first, own⟩, among, same⟩ := List.mem_map.1 member
    obtain ⟨rfl, rfl⟩ := Prod.mk.inj same
    intro entry held
    rcases List.mem_append.1 held with here | fallen
    next => exact clear.sections _ among entry here
    next => exact clear.fallback entry (List.mem_filter.1 fallen).1
  refine ⟨⟨rfl, fun name listed => ?_, ?_⟩, ?_⟩
  next => exact clear.named name (sectionNames_spread document ▸ listed)
  next => exact fun name entries member held among => (entry member held among).1
  next => exact fun name entries member held among => (entry member held among).2

theorem Clear.unmarked_held (clear : document.Clear) (held : document.held? name key = some value) : Unmarked value :=
  unmarked_of_entries (fun entry member => (clear.fallback entry member).2)
    (fun found member entry among => (clear.sections found member entry among).2) held

theorem Clear.parentsUnmarked (clear : document.Clear) : document.ParentsUnmarked :=
  fun _ _ => clear.unmarked_held

theorem Clear.assign (clear : document.Clear) (unmarked : Unmarked value) (block key : String) :
    (document.assign block key value).Clear where
  named name listed := clear.named name (sectionNames_assign document block key value ▸ listed)
  fallback := clear.fallback
  sections found member entry among := by
    rcases mem_changeSection member with kept | ⟨before, here, rfl⟩
    next => exact clear.sections found kept entry among
    next =>
      rcases Entries.mem_put among with rfl | old
      next => exact ⟨lowered_lowered key, unmarked⟩
      next => exact clear.sections _ here entry old

theorem clear_of_parse {file text : String} (parsed : parse file text = .ok document)
    (sections : forall found, found ∈ document.sections -> forall entry, entry ∈ found.2 -> Unmarked entry.2)
    (fallback : forall entry, entry ∈ document.fallback -> Unmarked entry.2) : document.Clear := by
  obtain ⟨reading, ordinary, rfl⟩ := reading_of_parse parsed
  refine ⟨fun name => named_of_parse parsed, fun found member entry among => ?_, fun entry member => ?_⟩
  next => exact ⟨(mem_document ordinary member).2 entry among, sections found member entry among⟩
  next =>
    refine ⟨?_, fallback entry member⟩
    change entry ∈ ((reading.sections.lookup fallbackName).map Reading.close).getD [] at member
    cases opened : reading.sections.lookup fallbackName with
    | none =>
      rw [opened] at member
      cases member
    | some entries =>
      rw [opened] at member
      obtain ⟨front, back, same, _⟩ := List.lookup_eq_some_iff.1 opened
      have among : (fallbackName, entries) ∈ reading.sections := same ▸ List.mem_append_right front List.mem_cons_self
      exact Reading.lower_close (ordinary.lowerKeys _ _ among) entry member

end Clear

section Supplying

/-- A document in which one section has come to have certain values, of its own or from the fallback, while the others
have what they had. -/
structure Supplies (document : Document) (block : String) (value? : String -> Option String) (changed : Document) :
    Prop where
  clear : changed.Clear
  names : changed.sectionNames = document.sectionNames
  others : forall name, name ≠ block -> changed.held? name = document.held? name
  held : forall key, changed.held? block key = value? key

theorem Alters.held_other {value? : String -> Option String} (alters : document.Alters block value? changed)
    (other : name ≠ block) : changed.held? name = document.held? name := by
  funext key
  unfold held? Document.raw?
  rw [alters.others name other, alters.fallback]

theorem Alters.held {value? : String -> Option String} (alters : document.Alters block value? changed)
    (known : block ∈ document.sectionNames) (key : String) :
    changed.held? block key = (value? key).or (document.fallback.find? (lowered key)) := by
  rw [held?_eq (alters.names ▸ known), alters.own, alters.fallback]

theorem clear_setAll (ordinary : block ≠ "" ∧ block ≠ fallbackName) {changes : List Change} (clear : document.Clear)
    (given : forall change, change ∈ changes -> exists value, change.value = .ok value ∧ Unmarked value) :
    (Document.setAll block changes document).result.document.Clear := by
  induction changes generalizing document with
  | nil => exact clear
  | cons change rest ih =>
    obtain ⟨⟨value, gives, unmarked⟩, others⟩ := List.forall_mem_cons.1 given
    rw [Document.setAll, Told.result_bind]
    cases set : change.value.bind (document.set block change.key) with
    | error fault => exact clear
    | ok next =>
      rw [gives] at set
      obtain ⟨_, _, rfl⟩ := (set_ok_iff ordinary).1 set
      exact ih (clear.assign unmarked block change.key) others

theorem setAll_supplies (clear : document.Clear) (known : block ∈ document.sectionNames) {changes : List Change}
    (given : forall change, change ∈ changes -> exists value, change.value = .ok value ∧ Unmarked value) :
    exists changed, (Document.setAll block changes document).result = ⟨changed, none⟩ ∧
      document.Supplies block (fun key => (latest? key changes).or (document.held? block key)) changed := by
  have ordinary := clear.named _ known
  obtain ⟨succeeds, alters⟩ := setAll_alters ordinary known changes
  have done : (Document.setAll block changes document).result.fault = none := by
    refine succeeds.2 fun change member => ?_
    obtain ⟨value, gives, unmarked⟩ := given change member
    exact ⟨value, gives, Reference.strayPercent?_unmarked unmarked⟩
  refine ⟨(Document.setAll block changes document).result.document, ?_, ?_⟩
  next => exact congrArg (Changed.mk _) done
  next =>
    refine ⟨clear_setAll ordinary clear given, (alters done).names, fun name => (alters done).held_other, fun key => ?_⟩
    rw [(alters done).held known, held?_eq known, Option.or_assoc]

theorem supplies_self (clear : document.Clear) (block : String) :
    document.Supplies block (document.held? block) document where
  clear := clear
  names := rfl
  others _ _ := rfl
  held _ := rfl

theorem Supplies.trans {value? further? : String -> Option String} {middle : Document}
    (first : document.Supplies block value? middle) (second : middle.Supplies block further? changed) :
    document.Supplies block further? changed where
  clear := second.clear
  names := second.names.trans first.names
  others name other := (second.others name other).trans (first.others name other)
  held := second.held

end Supplying

end Document

end SpokenArithmetic.Settings
